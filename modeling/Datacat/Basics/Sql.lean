import Mathlib

/-!
# Statements of SQL

A statement is built of texts, which the program writes, and of values, which are bound and stand in
the text as numbered parameters. What the database gets is a text and a list of values. It is read
back here, from the characters: as words, then as the conditions of a `WHERE` clause, and these as
filters of the rows.

## Main results

- `Reads.bind`, `Reads.push`: a condition that is pushed is read back after those before it.
- `readStatement_eq`: the statement as a whole.
-/

namespace Datacat.Basics.Sql

/-! ## Builder -/

/-- `$n`. -/
def parameter (n : Nat) : List Char := '$' :: Nat.toDigits 10 n

/-- `QueryBuilder` of sqlx: the text so far and the values bound so far. -/
structure QueryBuilder (β : Type) where
  query : List Char
  arguments : List β

namespace QueryBuilder

variable {β : Type}

def new (text : String) : QueryBuilder β := ⟨text.toList, []⟩

def push (qb : QueryBuilder β) (text : String) : QueryBuilder β :=
  { qb with query := qb.query ++ text.toList }

def pushBind (qb : QueryBuilder β) (value : β) : QueryBuilder β where
  query := qb.query ++ parameter (qb.arguments.length + 1)
  arguments := qb.arguments ++ [value]

/-- `if let Some(value) = value { qb.push(text).push_bind(value); }` -/
def pushSome (qb : QueryBuilder β) (text : String) : Option β → QueryBuilder β
  | some value => (qb.push text).pushBind value
  | none => qb

variable {qb : QueryBuilder β}

theorem prefix_pushSome (text : String) (value : Option β) :
    qb.arguments <+: (qb.pushSome text value).arguments := by
  cases value with
  | none => exact List.prefix_refl _
  | some value => exact List.prefix_append _ _

end QueryBuilder

/-! ## Words -/

/-- Brackets and commas are words of their own. -/
def spaced (c : Char) : List Char :=
  if c = '(' ∨ c = ')' ∨ c = ',' then [' ', c, ' '] else [c]

/-- The words of a text. -/
def words (text : List Char) : List String :=
  (((text.flatMap spaced).splitOn ' ').filter fun w => !w.isEmpty).map String.ofList

/-- A blank ends a word. -/
theorem words_append_space (first second : List Char) :
    words (first ++ ' ' :: second) = words first ++ words second := by
  have hspace : spaced ' ' = [' '] := by decide
  unfold words
  rw [List.flatMap_append, List.flatMap_cons, hspace, List.singleton_append,
    List.splitOn_append_cons_self, List.filter_append, List.map_append]

/-- A bracket is a word, whatever stands beside it. -/
theorem words_append_bracket {c : Char} (hc : c = '(' ∨ c = ')' ∨ c = ',')
    (first second : List Char) :
    words (first ++ c :: second) = words first ++ String.ofList [c] :: words second := by
  have hspaced : spaced c = [' ', c, ' '] := if_pos hc
  have hblank : ' ' ∉ [c] := by
    rcases hc with rfl | rfl | rfl <;> decide
  have hrest : (c :: ' ' :: second.flatMap spaced).splitOn ' ' =
      [c] :: (second.flatMap spaced).splitOn ' ' := by
    show ([c] ++ ' ' :: second.flatMap spaced).splitOn ' ' = _
    rw [List.splitOn_append_cons_self, List.splitOn_eq_singleton hblank]
    rfl
  unfold words
  rw [List.flatMap_append, List.flatMap_cons, hspaced]
  show List.map _ (List.filter _ ((first.flatMap spaced ++ ' ' :: c :: ' ' ::
    second.flatMap spaced).splitOn ' ')) = _
  rw [List.splitOn_append_cons_self, hrest, List.filter_append, List.map_append]
  rfl

/-- A text without blanks, brackets and commas is one word. -/
theorem words_eq_singleton {text : List Char} (hne : text ≠ [])
    (h : ∀ c ∈ text, c ≠ ' ' ∧ c ≠ '(' ∧ c ≠ ')' ∧ c ≠ ',') : words text = [String.ofList text] := by
  have hspaced : text.flatMap spaced = text := by
    have hsingle : ∀ c ∈ text, spaced c = [c] := by
      intro c hc
      obtain ⟨-, hopen, hclose, hcomma⟩ := h c hc
      exact if_neg (by simp [hopen, hclose, hcomma])
    rw [List.flatMap_congr hsingle]
    exact List.flatMap_singleton' text
  have hsplit : text.splitOn ' ' = [text] :=
    List.splitOn_eq_singleton fun hmem => (h _ hmem).1 rfl
  have hkeep : (!text.isEmpty) = true := by
    cases text with
    | nil => exact absurd rfl hne
    | cons c cs => rfl
  unfold words
  rw [hspaced, hsplit, List.filter_singleton, hkeep]
  rfl

theorem words_parameter (n : Nat) : words (parameter n) = [String.ofList (parameter n)] := by
  apply words_eq_singleton (List.cons_ne_nil _ _)
  intro c hc
  rcases List.mem_cons.mp hc with rfl | hdigit
  · decide
  · have hdigits : c.isDigit = true :=
      Nat.isDigit_of_mem_toDigits (b := 10) (by decide) (by decide) hdigit
    refine ⟨?_, ?_, ?_, ?_⟩ <;> rintro rfl <;> exact absurd hdigits (by decide)

theorem parameter_injective : Function.Injective parameter := by
  intro m n h
  have hdigits : Nat.toDigits 10 m = Nat.toDigits 10 n := (List.cons.inj h).2
  calc
    m = Nat.ofDigitChars 10 (Nat.toDigits 10 m) 0 := Nat.ofDigitChars_ten_toDigits.symm
    _ = Nat.ofDigitChars 10 (Nat.toDigits 10 n) 0 := by rw [hdigits]
    _ = n := Nat.ofDigitChars_ten_toDigits

/-! ## Conditions -/

inductive Comparison where
  | eq
  | ge
  | le
  | lt
  | ilike
deriving DecidableEq

def Comparison.ofWord (w : String) : Option Comparison :=
  if w = "=" then some .eq
  else if w = ">=" then some .ge
  else if w = "<=" then some .le
  else if w = "<" then some .lt
  else if w = "ILIKE" then some .ilike
  else none

inductive Operand where
  | bound (n : Nat)
  | number (n : Nat)
deriving DecidableEq

def Operand.ofWord (w : String) : Option Operand :=
  match w.toList with
  | '$' :: digits => some (.bound (Nat.ofDigitChars 10 digits 0))
  | digits =>
    if digits.all Char.isDigit then some (.number (Nat.ofDigitChars 10 digits 0)) else none

/-- What the columns of a table are compared with: whether a row satisfies the comparison, or
nothing when there is no such column or it is of another type. -/
structure Schema (ρ β : Type) where
  compare : String → Comparison → β → Option (ρ → Bool)
  isNotNull : String → Option (ρ → Bool)
  number : Nat → β

section Reading

variable {ρ β : Type} (schema : Schema ρ β) (arguments : List β)

/-- The value that an operand stands for. -/
def Operand.value : Operand → Option β
  | .bound 0 => none
  | .bound (n + 1) => arguments[n]?
  | .number n => some (schema.number n)

/-- A condition, as filters of the rows. -/
def readCondition : List String → Option (List (ρ → Bool))
  | [w] => if w = "true" then some [] else none
  | [column, comparison, operand] => do
    let comparison ← Comparison.ofWord comparison
    let operand ← Operand.ofWord operand
    let value ← operand.value schema arguments
    let filter ← schema.compare column comparison value
    return [filter]
  | [column, is, not, null] =>
    if is = "IS" ∧ not = "NOT" ∧ null = "NULL" then (schema.isNotNull column).map fun f => [f]
    else none
  | _ => none

/-- Conditions with `AND` between them. -/
def readConditions (ws : List String) : Option (List (ρ → Bool)) :=
  ((ws.splitOn "AND").mapM (readCondition schema arguments)).map List.flatten

/-- What may come after the conditions. -/
def isEnd (w : String) : Bool := w ∈ ["GROUP", "ORDER", "LIMIT", "HAVING", ")"]

/-- What comes before the first `WHERE`, its conditions, and what comes after them. -/
def readStatement (ws : List String) : Option (List String × List (ρ → Bool) × List String) :=
  let clause := (ws.dropWhile fun w => w != "WHERE").tail
  (readConditions schema arguments (clause.takeWhile fun w => !isEnd w)).map fun filters =>
    (ws.takeWhile fun w => w != "WHERE", filters, clause.dropWhile fun w => !isEnd w)

end Reading

/-! ## What is read back -/

section Readable

variable {ρ β : Type} {schema : Schema ρ β} {arguments more : List β} {ws condition : List String}
  {filters added : List (ρ → Bool)}

theorem Operand.ofWord_parameter (n : Nat) :
    Operand.ofWord (String.ofList (parameter n)) = some (.bound n) := by
  unfold Operand.ofWord
  rw [String.toList_ofList]
  exact congrArg (fun n => some (Operand.bound n)) Nat.ofDigitChars_ten_toDigits

/-- A value that is bound later changes nothing. -/
theorem Operand.value_append {operand : Operand} {value : β}
    (h : operand.value schema arguments = some value) :
    operand.value schema (arguments ++ more) = some value := by
  match operand with
  | .bound 0 => cases h
  | .bound (n + 1) =>
    have hlt : n < arguments.length := (List.getElem?_eq_some_iff.mp h).1
    exact (List.getElem?_append_left hlt).trans h
  | .number n => exact h

theorem readCondition_append (h : readCondition schema arguments condition = some filters) :
    readCondition schema (arguments ++ more) condition = some filters := by
  match condition with
  | [] => cases h
  | [w] => exact h
  | [w, w'] => cases h
  | [column, comparison, operand] =>
    simp only [readCondition, Option.bind_eq_bind, Option.bind_eq_some_iff] at h ⊢
    obtain ⟨c, hc, o, ho, value, hvalue, hfilter⟩ := h
    exact ⟨c, hc, o, ho, value, Operand.value_append hvalue, hfilter⟩
  | [column, is, not, null] => exact h
  | a :: b :: c :: d :: e :: rest => cases h

theorem readConditions_append (h : readConditions schema arguments ws = some filters) :
    readConditions schema (arguments ++ more) ws = some filters := by
  unfold readConditions at h ⊢
  obtain ⟨read, hread, rfl⟩ := Option.map_eq_some_iff.mp h
  apply Option.map_eq_some_iff.mpr ⟨read, _, rfl⟩
  generalize ws.splitOn "AND" = conditions at hread ⊢
  clear h
  induction conditions generalizing read with
  | nil => exact hread
  | cons condition conditions ih =>
    simp only [List.mapM_cons, Option.bind_eq_bind, Option.bind_eq_some_iff] at hread ⊢
    obtain ⟨first, hfirst, rest, hrest, hall⟩ := hread
    exact ⟨first, readCondition_append hfirst, rest, ih rest hrest, hall⟩

/-- One condition more. -/
theorem readConditions_and (h : readConditions schema arguments ws = some filters)
    (hcondition : readCondition schema arguments condition = some added)
    (hand : "AND" ∉ condition) :
    readConditions schema arguments (ws ++ "AND" :: condition) = some (filters ++ added) := by
  unfold readConditions at h ⊢
  obtain ⟨read, hread, rfl⟩ := Option.map_eq_some_iff.mp h
  rw [List.splitOn_append_cons_self, List.splitOn_eq_singleton hand, List.mapM_append, hread]
  simp [hcondition]

end Readable

/-! ## Statements that are being built -/

section Building

variable {ρ β : Type}

/-- The conditions of the text so far; nothing comes after them yet. -/
def Reads (schema : Schema ρ β) (qb : QueryBuilder β) (before : List String)
    (filters : List (ρ → Bool)) : Prop :=
  ∃ clause, words qb.query = before ++ "WHERE" :: clause ∧ (∀ w ∈ clause, isEnd w = false) ∧
    readConditions schema qb.arguments clause = some filters

/-- The text is ` AND <column> <comparison> `. -/
def Conjunct (text column : String) (c : Comparison) : Prop :=
  ∃ t w, text.toList = ' ' :: (t ++ [' ']) ∧ words t = ["AND", column, w] ∧
    Comparison.ofWord w = some c ∧ isEnd column = false ∧ isEnd w = false ∧
    column ≠ "AND" ∧ w ≠ "AND"

/-- The text is ` AND <condition>`. -/
def Conjunction (text : String) (condition : List String) : Prop :=
  ∃ t, text.toList = ' ' :: t ∧ words t = "AND" :: condition ∧
    ∀ w ∈ condition, isEnd w = false ∧ w ≠ "AND"

variable {schema : Schema ρ β} {qb qb' : QueryBuilder β} {before after : List String}
  {filters added : List (ρ → Bool)} {text column : String} {c : Comparison}

/-- The column is a word, and so is the comparison. -/
theorem conjunct_of_column {w : String} (hw : text.toList = ' ' :: (w.toList ++ [' ']))
    (hwords : words column.toList = [column] ∧ words w.toList = [w])
    (hcomparison : Comparison.ofWord w = some c) (hends : isEnd column = false ∧ isEnd w = false)
    (hands : column ≠ "AND" ∧ w ≠ "AND") : Conjunct (" AND " ++ column ++ text) column c := by
  refine ⟨"AND".toList ++ ' ' :: (column.toList ++ ' ' :: w.toList), w, ?_, ?_, hcomparison,
    hends.1, hends.2, hands.1, hands.2⟩
  · rw [String.toList_append, String.toList_append, hw]
    simp
  · rw [words_append_space, words_append_space, hwords.1, hwords.2]
    rfl

theorem parameter_ne_and (n : Nat) : String.ofList (parameter n) ≠ "AND" := by
  intro h
  have hlist := congrArg String.toList h
  rw [String.toList_ofList] at hlist
  cases hlist

theorem isEnd_parameter (n : Nat) : isEnd (String.ofList (parameter n)) = false := by
  have hne : ∀ cs : List Char, cs.head? ≠ some '$' →
      String.ofList (parameter n) ≠ String.ofList cs := by
    intro cs hhead h
    apply hhead
    rw [← String.ofList_injective h]
    rfl
  unfold isEnd
  rw [decide_eq_false_iff_not]
  intro hmem
  simp only [List.mem_cons, List.not_mem_nil, or_false] at hmem
  rcases hmem with h | h | h | h | h
  · exact hne "GROUP".toList (by decide) h
  · exact hne "ORDER".toList (by decide) h
  · exact hne "LIMIT".toList (by decide) h
  · exact hne "HAVING".toList (by decide) h
  · exact hne ")".toList (by decide) h

/-- A condition that ends with a value, which is bound there. -/
theorem readCondition_bind {arguments : List β} {value : β} {f : ρ → Bool} {w : String}
    (hw : Comparison.ofWord w = some c) (hcompare : schema.compare column c value = some f) :
    readCondition schema (arguments ++ [value])
      [column, w, String.ofList (parameter (arguments.length + 1))] = some [f] := by
  have hvalue : Operand.value schema (arguments ++ [value]) (.bound (arguments.length + 1)) =
      some value := List.getElem?_concat_length
  simp only [readCondition, Option.bind_eq_bind, hw, Option.bind_some, Operand.ofWord_parameter,
    hvalue, hcompare]
  rfl

/-- The first condition. -/
theorem reads_first (qb : QueryBuilder β) {value : β} {f : ρ → Bool} {t : List Char} {w : String}
    (htext : text.toList = t ++ [' '])
    (hwords : words (qb.query ++ t) = before ++ ["WHERE", column, w])
    (hw : Comparison.ofWord w = some c) (hends : isEnd column = false ∧ isEnd w = false)
    (hands : column ≠ "AND" ∧ w ≠ "AND") (hcompare : schema.compare column c value = some f) :
    Reads schema ((qb.push text).pushBind value) before [f] := by
  let condition := [column, w, String.ofList (parameter (qb.arguments.length + 1))]
  refine ⟨condition, ?_, ?_, ?_⟩
  · show words (qb.query ++ text.toList ++ parameter (qb.arguments.length + 1)) = _
    rw [htext, ← List.append_assoc, List.append_assoc, List.singleton_append, words_append_space,
      hwords, words_parameter, List.append_assoc]
    rfl
  · intro w' hw'
    simp only [condition, List.mem_cons, List.not_mem_nil, or_false] at hw'
    rcases hw' with rfl | rfl | rfl
    · exact hends.1
    · exact hends.2
    · exact isEnd_parameter _
  · have hand : "AND" ∉ condition := by
      simp only [condition, List.mem_cons, List.not_mem_nil, or_false, not_or]
      exact ⟨hands.1.symm, hands.2.symm, (parameter_ne_and _).symm⟩
    have hread : readCondition schema (qb.arguments ++ [value]) condition = some [f] :=
      readCondition_bind hw hcompare
    unfold readConditions
    rw [List.splitOn_eq_singleton hand]
    show Option.map List.flatten
      (List.mapM (readCondition schema (qb.arguments ++ [value])) [condition]) = _
    simp [hread]

/-- One more condition, with a value. -/
theorem Reads.bind (h : Reads schema qb before filters) (htext : Conjunct text column c) {value : β}
    {f : ρ → Bool} (hcompare : schema.compare column c value = some f) :
    Reads schema ((qb.push text).pushBind value) before (filters ++ [f]) := by
  obtain ⟨clause, hclause, hends, hread⟩ := h
  obtain ⟨t, w, htext, hwords, hw, hcolumn, hword, hand⟩ := htext
  let condition := [column, w, String.ofList (parameter (qb.arguments.length + 1))]
  refine ⟨clause ++ "AND" :: condition, ?_, ?_, ?_⟩
  · show words (qb.query ++ text.toList ++ parameter (qb.arguments.length + 1)) = _
    rw [htext, List.append_assoc, List.cons_append, List.append_assoc, List.singleton_append,
      words_append_space, words_append_space, hclause, hwords, words_parameter, List.append_assoc]
    rfl
  · intro w' hw'
    rcases List.mem_append.mp hw' with hold | hnew
    · exact hends w' hold
    · simp only [condition, List.mem_cons, List.not_mem_nil, or_false] at hnew
      rcases hnew with rfl | rfl | rfl | rfl
      · decide
      · exact hcolumn
      · exact hword
      · exact isEnd_parameter _
  · refine readConditions_and (readConditions_append hread) (readCondition_bind hw hcompare) ?_
    simp only [condition, List.mem_cons, List.not_mem_nil, or_false, not_or]
    exact ⟨hand.1.symm, hand.2.symm, (parameter_ne_and _).symm⟩

/-- One more condition, if there is a value. -/
theorem Reads.bindSome {α : Type} (h : Reads schema qb before filters)
    (htext : Conjunct text column c) {wrap : α → β} {f : α → ρ → Bool}
    (hcompare : ∀ a, schema.compare column c (wrap a) = some (f a)) (value : Option α) :
    Reads schema (qb.pushSome text (value.map wrap)) before (filters ++ (value.map f).toList) := by
  cases value with
  | none =>
    rw [show (Option.map f none).toList = [] from rfl, List.append_nil]
    exact h
  | some a => exact h.bind htext (hcompare a)

/-- One more condition, without a value. -/
theorem Reads.push (h : Reads schema qb before filters) (condition : List String)
    (htext : Conjunction text condition)
    (hread : readCondition schema qb.arguments condition = some added) :
    Reads schema (qb.push text) before (filters ++ added) := by
  obtain ⟨clause, hclause, hends, hold⟩ := h
  obtain ⟨t, htext, hwords, hcondition⟩ := htext
  refine ⟨clause ++ "AND" :: condition, ?_, ?_, ?_⟩
  · show words (qb.query ++ text.toList) = _
    rw [htext, words_append_space, hclause, hwords, List.append_assoc]
    rfl
  · intro w hw
    rcases List.mem_append.mp hw with hw | hw
    · exact hends w hw
    · rcases List.mem_cons.mp hw with rfl | hw
      · decide
      · exact (hcondition w hw).1
  · exact readConditions_and hold hread fun hmem => (hcondition _ hmem).2 rfl

theorem ne_where (hbefore : "WHERE" ∉ before) : ∀ w ∈ before, (w != "WHERE") = true := by
  intro w hw
  rw [bne_iff_ne]
  rintro rfl
  exact hbefore hw

theorem takeWhile_where (hbefore : "WHERE" ∉ before) (rest : List String) :
    (before ++ "WHERE" :: rest).takeWhile (fun w => w != "WHERE") = before :=
  (List.takeWhile_append_of_pos (ne_where hbefore)).trans (List.append_nil _)

/-- **A statement read back**, from its words. -/
theorem readStatement_eq {clause : List String} {arguments : List β} (hbefore : "WHERE" ∉ before)
    (hends : ∀ w ∈ clause, isEnd w = false)
    (hread : readConditions schema arguments clause = some filters)
    (hafter : ∀ w ∈ after.head?, isEnd w = true) :
    readStatement schema arguments (before ++ "WHERE" :: (clause ++ after)) =
      some (before, filters, after) := by
  have hrest : (before ++ "WHERE" :: (clause ++ after)).dropWhile (fun w => w != "WHERE") =
      "WHERE" :: (clause ++ after) := List.dropWhile_append_of_pos (ne_where hbefore)
  have hinside : ∀ w ∈ clause, (!isEnd w) = true := fun w hw => by rw [hends w hw]; rfl
  have htail : after.takeWhile (fun w => !isEnd w) = [] ∧
      after.dropWhile (fun w => !isEnd w) = after := by
    cases after with
    | nil => exact ⟨rfl, rfl⟩
    | cons w after =>
      have hw : ¬(!isEnd w) = true := by
        rw [hafter w rfl]
        decide
      exact ⟨List.takeWhile_cons_of_neg hw, List.dropWhile_cons_of_neg hw⟩
  unfold readStatement
  rw [hrest, takeWhile_where hbefore, List.tail_cons]
  dsimp only
  rw [List.takeWhile_append_of_pos hinside, List.dropWhile_append_of_pos hinside, htail.1, htail.2,
    List.append_nil, hread]
  rfl

end Building

end Datacat.Basics.Sql
