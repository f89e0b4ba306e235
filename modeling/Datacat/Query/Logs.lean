import Datacat.Basics.Like
import Datacat.Logs.Model
import Datacat.State

/-!
# Search of the Logs

The query layer looks for a text in the bodies of the logs with a pattern made of the text between
two percent signs. What means something in a pattern is not escaped: a search is the search for a
substring exactly when the text has no percent sign, underscore or backslash
(`substring_search_iff`).

The letter case of the database and the reading of an instant are parameters.
-/

namespace Datacat.Query

open Basics Basics.Like Logs

/-! ## Requests -/

structure LogsParams where
  service : Option String := none
  session : Option String := none
  traceId : Option String := none
  severityMin : Option Int16 := none
  /-- The substring that is looked for in the body. -/
  q : Option String := none
  «from» : Option String := none
  «to» : Option String := none
  limit : Option Int64 := none

structure LogRow where
  logTime : DateTime
  severityNumber : Option Int16
  severityText : Option String
  serviceName : Option String
  body : Option String
  traceId : Option String
  spanId : Option String
  sessionId : Option String
  actorId : Option String
  tenantId : Option String

/-- The columns of the `SELECT`. -/
def LogRow.ofStored (l : StoredLog) : LogRow where
  logTime := l.logTime
  severityNumber := l.severityNumber
  severityText := l.severityText
  serviceName := l.serviceName
  body := l.body
  traceId := l.traceId
  spanId := l.spanId
  sessionId := l.sessionId
  actorId := l.actorId
  tenantId := l.tenantId

/-- `clamp_limit`. -/
def clampLimit (limit : Option Int64) (default max : Nat) : Nat :=
  Nat.min (((limit.map Int64.toInt).getD default).toNat.max 1) max

section Search

variable (letters : LetterCase) (rfc3339 : String → Except String DateTime)

/-- `parse_ts`. -/
def parseTs : Option String → Except AppError (Option DateTime)
  | none => .ok none
  | some s =>
    let text := String.ofList (trim s.toList)
    if text.isEmpty then .ok none
    else
      match rfc3339 text with
      | .ok t => .ok (some t)
      | .error e => .error (AppError.ofMessage ("horodatage RFC3339 invalide '" ++ s ++ "': " ++ e))

/-- `<column> = <value>`, when there is a value; a column that is null is not equal to it. -/
def columnEquals (column value : Option String) : Bool :=
  value.all fun value => column == some value

/-- `body ILIKE %<text>%`. -/
def bodyLike (q body : Option String) : Bool :=
  q.all fun text =>
    body.any fun body => ilike letters body.toList ('%' :: (text.toList ++ ['%'])) == some true

/-- The `WHERE` of `search_logs`. -/
def LogsParams.selects (p : LogsParams) (since upTo : Option DateTime) (l : StoredLog) : Bool :=
  columnEquals l.serviceName p.service && columnEquals l.sessionId p.session &&
    columnEquals l.traceId p.traceId &&
    (p.severityMin.all fun least => l.severityNumber.any fun n => least ≤ n) &&
    bodyLike letters p.q l.body &&
    (since.all fun t => decide (t ≤ l.logTime)) && (upTo.all fun t => decide (l.logTime ≤ t))

/-- The answers of `search_logs`: the database orders the logs of one instant as it likes. -/
def SearchLogs (table : List StoredLog) (p : LogsParams) (answer : Except AppError (List LogRow)) :
    Prop :=
  match parseTs rfc3339 p.«from», parseTs rfc3339 p.«to» with
  | .error e, _ => answer = .error e
  | .ok _, .error e => answer = .error e
  | .ok since, .ok upTo =>
    ∃ ordered : List StoredLog, ordered.Perm (table.filter (p.selects letters since upTo)) ∧
      ordered.Pairwise (fun a b => b.logTime ≤ a.logTime) ∧
      answer = .ok ((ordered.take (clampLimit p.limit 100 1000)).map LogRow.ofStored)

/-- The body of the log contains the text, up to letter case. -/
def BodyContains (l : StoredLog) (q : String) : Prop :=
  ∃ body, l.body = some body ∧ ContainsUpToCase letters body.toList q.toList

/-- A search for nothing but the text, below its limit, returns the logs whose bodies contain it. -/
def SubstringSearch (q : String) : Prop :=
  ∀ (table : List StoredLog) (limit : Option Int64) (rows : List LogRow),
    SearchLogs letters rfc3339 table { q := some q, limit := limit } (.ok rows) →
      rows.length < clampLimit limit 100 1000 →
        ∀ row, row ∈ rows ↔ ∃ l ∈ table, LogRow.ofStored l = row ∧ BodyContains letters l q

/-! ## What a search finds -/

variable {letters rfc3339}

/-- A search for a text alone, below its limit. -/
theorem mem_of_searchLogs {q : String} {table : List StoredLog} {limit : Option Int64}
    {rows : List LogRow}
    (h : SearchLogs letters rfc3339 table { q := some q, limit := limit } (.ok rows))
    (hlimit : rows.length < clampLimit limit 100 1000) (row : LogRow) :
    row ∈ rows ↔ ∃ l ∈ table, LogRow.ofStored l = row ∧ bodyLike letters (some q) l.body = true := by
  obtain ⟨ordered, hperm, -, hrows⟩ := h
  obtain rfl := Except.ok.inj hrows
  -- The limit cuts nothing off.
  have hall : ordered.take (clampLimit limit 100 1000) = ordered := by
    apply List.take_of_length_le
    by_contra hlong
    rw [List.length_map, List.length_take, min_eq_left (Nat.le_of_not_le hlong)] at hlimit
    exact lt_irrefl _ hlimit
  have hselects : ∀ l : StoredLog, LogsParams.selects letters { q := some q, limit := limit }
      none none l = bodyLike letters (some q) l.body := by
    intro l
    simp [LogsParams.selects, columnEquals]
  rw [show clampLimit ({ q := some q, limit := limit } : LogsParams).limit 100 1000 =
    clampLimit limit 100 1000 from rfl, hall, List.mem_map]
  simp only [hperm.mem_iff, List.mem_filter, hselects]
  exact exists_congr fun l => by rw [and_assoc, and_comm (a := bodyLike _ _ _ = true)]

/-- A log of no more than a body. -/
def logOf (body : String) : StoredLog where
  logId := ⟨Vector.replicate 16 0⟩
  logTime := ⟨0⟩
  observedTime := none
  receivedAt := ⟨0⟩
  severityNumber := none
  severityText := none
  body := some body
  serviceName := none
  scopeName := none
  traceId := none
  spanId := none
  tenantId := none
  actorId := none
  sessionId := none
  resourceAttributes := .null
  logAttributes := .null

theorem searchLogs_singleton (q body : String) :
    SearchLogs letters rfc3339 [logOf body] { q := some q }
      (.ok (if bodyLike letters (some q) (some body) then [LogRow.ofStored (logOf body)] else [])) := by
  have hselects : LogsParams.selects letters { q := some q } none none (logOf body) =
      bodyLike letters (some q) (some body) := by
    simp [LogsParams.selects, columnEquals, logOf]
  refine ⟨_, List.Perm.refl _, ?_, ?_⟩
  · exact (List.pairwise_singleton _ _).sublist List.filter_sublist
  · rw [List.filter_singleton, hselects]
    cases bodyLike letters (some q) (some body) <;> rfl

theorem bodyLike_iff {q body : String} {b : Bool}
    (h : ilike letters body.toList ('%' :: (q.toList ++ ['%'])) = some b) :
    bodyLike letters (some q) (some body) = b := by
  unfold bodyLike
  rw [Option.all_some, Option.any_some, h]
  cases b <;> rfl

end Search

/-- **Substring search.** -/
theorem substring_search_iff (letters : LetterCase) (rfc3339 : String → Except String DateTime)
    (q : String) : SubstringSearch letters rfc3339 q ↔ Like.Plain q.toList := by
  rw [← findsContained_iff letters]
  constructor
  · intro hsearch text
    obtain ⟨b, hb⟩ := exists_ilike_containing letters text q.toList
    refine ⟨b, hb, ?_⟩
    -- A table with one log, of which the text is the body.
    have htext : (String.ofList text).toList = text := String.toList_ofList
    have hlike : bodyLike letters (some q) (some (String.ofList text)) = b := by
      apply bodyLike_iff
      rw [htext]
      exact hb
    have hrows := @searchLogs_singleton letters rfc3339 q (String.ofList text)
    rw [hlike] at hrows
    have hlength : (if b = true then [LogRow.ofStored (logOf (String.ofList text))] else []).length <
        clampLimit none 100 1000 := by
      refine Nat.lt_of_le_of_lt (m := 1) ?_ (by decide)
      cases b <;> simp
    have hrow := hsearch _ none _ hrows hlength (LogRow.ofStored (logOf (String.ofList text)))
    calc
      b = true ↔ LogRow.ofStored (logOf (String.ofList text)) ∈
          if b = true then [LogRow.ofStored (logOf (String.ofList text))] else [] := by
        cases b <;> simp
      _ ↔ BodyContains letters (logOf (String.ofList text)) q := by
        rw [hrow]
        constructor
        · rintro ⟨l, hl, -, hcontains⟩
          rw [List.mem_singleton.mp hl] at hcontains
          exact hcontains
        · exact fun hcontains => ⟨_, List.mem_singleton_self _, rfl, hcontains⟩
      _ ↔ ContainsUpToCase letters text q.toList := by
        constructor
        · rintro ⟨body, hbody, hcontains⟩
          rw [← Option.some.inj hbody, htext] at hcontains
          exact hcontains
        · exact fun hcontains => ⟨String.ofList text, rfl, htext.symm ▸ hcontains⟩
  · intro hfinds table limit rows hsearch hlimit row
    rw [mem_of_searchLogs hsearch hlimit]
    refine exists_congr fun l => and_congr_right fun _ => and_congr_right fun _ => ?_
    unfold BodyContains
    cases hbody : l.body with
    -- A body that is null is not like anything.
    | none => exact ⟨nofun, fun ⟨body, hnone, _⟩ => by cases hnone⟩
    | some body =>
      obtain ⟨b, hb, hcontains⟩ := hfinds body.toList
      rw [bodyLike_iff hb, hcontains]
      constructor
      · exact fun h => ⟨body, rfl, h⟩
      · rintro ⟨found, hfound, h⟩
        rw [Option.some.inj hfound]
        exact h

section Sample

/-- The letters of ASCII. -/
def asciiLetters : LetterCase where
  lower := Char.toLower
  lower_eq_iff := by
    intro c special hspecial
    by_cases hupper : c.isUpper = true
    · have halpha : c.isAlpha = true := by simp [Char.isAlpha, hupper]
      have hnot : special.isAlpha = false := by
        simp only [isSpecial, Bool.or_eq_true, beq_iff_eq] at hspecial
        rcases hspecial with (rfl | rfl) | rfl <;> rfl
      refine iff_of_false (fun h => ?_) (fun h => ?_)
      · rw [← h, Char.isAlpha_toLower_eq_isAlpha, halpha] at hnot
        cases hnot
      · rw [← h, halpha] at hnot
        cases hnot
    · rw [Char.toLower_eq_of_not_isUpper hupper]

/-- A search for `100%` returns a log of `100 ms`. -/
theorem not_substring_search :
    ¬∀ (letters : LetterCase) (rfc3339 : String → Except String DateTime) (q : String),
      SubstringSearch letters rfc3339 q := by
  intro h
  let row := LogRow.ofStored (logOf "100 ms")
  have hfound := (h asciiLetters (fun _ => .error "") "100%" [logOf "100 ms"] none [row]
    (@searchLogs_singleton asciiLetters _ "100%" "100 ms") (by decide) row).mp
    (List.mem_singleton_self _)
  obtain ⟨l, hl, -, body, hbody, hcontains⟩ := hfound
  rw [List.mem_singleton.mp hl] at hbody
  rw [← Option.some.inj hbody] at hcontains
  have hnot : ¬"100%".toList.map Char.toLower <:+: "100 ms".toList.map Char.toLower := by
    decide +kernel
  exact hnot hcontains

end Sample

end Datacat.Query
