import Mathlib

/-!
# Comma-Separated Values

The grammar in which the database reads rows: fields end at a comma, records at a newline; a
quote opens and closes a part in which only the quote is special, doubled for itself; a field
without quotes and without characters is NULL.

## Main results

- `foldl_row`: reading a written row adds the record of its values.
- `parse_rows`: reading written rows gives their values back.
-/

namespace Datacat.Basics.Csv

/-! ## Reading -/

inductive Mode where
  | bare
  | quoted
  /-- After a quote inside a quoted part: its end, or the first half of a doubled quote. -/
  | closing

structure State where
  mode : Mode
  /-- The field has a quoted part. -/
  sawQuote : Bool
  field : List Char
  record : List (Option String)
  done : List (List (Option String))

namespace State

/-- At the start of a field. -/
def start (record : List (Option String)) (done : List (List (Option String))) : State where
  mode := .bare
  sawQuote := false
  field := []
  record := record
  done := done

/-- The value of the field read so far. -/
def value (s : State) : Option String :=
  if !s.sawQuote && s.field.isEmpty then none else some (String.ofList s.field)

def append (s : State) (w : List Char) : State := { s with field := s.field ++ w }

theorem append_append (s : State) (v w : List Char) :
    (s.append v).append w = s.append (v ++ w) := by
  simp [append]

def endField (s : State) : State := start (s.record ++ [s.value]) s.done

def endRecord (s : State) : State := start [] (s.done ++ [s.record ++ [s.value]])

/-- A character outside quotes. -/
def bareStep (s : State) (c : Char) : State :=
  if c = ',' then s.endField
  else if c = '\n' then s.endRecord
  else if c = '"' then { s with mode := .quoted, sawQuote := true }
  else { s.append [c] with mode := .bare }

def step (s : State) (c : Char) : State :=
  match s.mode with
  | .bare => s.bareStep c
  | .quoted =>
    if c = '"' then { s with mode := .closing } else s.append [c]
  | .closing =>
    if c = '"' then { s.append [c] with mode := .quoted } else s.bareStep c

end State

/-- Reads a text into records; none when it ends inside quotes. The last record may lack its
newline. -/
def parse (text : List Char) : Option (List (List (Option String))) :=
  let s := text.foldl State.step (State.start [] [])
  match s.mode with
  | .quoted => none
  | _ =>
    if s.record.isEmpty && s.field.isEmpty && !s.sawQuote then some s.done
    else some s.endRecord.done

/-! ## Writing -/

/-- A field as it is written. -/
inductive Field where
  | null
  | bare (w : List Char)
  | quoted (s : String)

/-- Not special outside quotes. -/
def isPlain (c : Char) : Bool := c != ',' && c != '\n' && c != '"'

/-- Characters of a class without the three special ones are plain. -/
theorem isPlain_of_class {p : Char → Bool} (hcomma : p ',' = false) (hline : p '\n' = false)
    (hquote : p '"' = false) {c : Char} (h : p c = true) : isPlain c = true := by
  have hne : ∀ d, p d = false → c ≠ d := by
    rintro d hd rfl
    exact absurd h (by simp [hd])
  simp [isPlain, hne _ hcomma, hne _ hline, hne _ hquote]

/-- A character inside quotes. -/
def escape (c : Char) : List Char := if c = '"' then ['"', c] else [c]

namespace Field

def text : Field → List Char
  | null => []
  | bare w => w
  | quoted s => '"' :: (s.toList.flatMap escape ++ ['"'])

def value : Field → Option String
  | null => none
  | bare w => some (String.ofList w)
  | quoted s => some s

/-- What is written without quotes needs none. -/
def Plain : Field → Prop
  | bare w => w ≠ [] ∧ ∀ c ∈ w, isPlain c = true
  | _ => True

end Field

/-- A record as it is written. -/
def row : List Field → List Char
  | [] => ['\n']
  | [f] => f.text ++ ['\n']
  | f :: g :: fs => f.text ++ ',' :: row (g :: fs)

/-! ## Reading what is written -/

open State

/-- Plain characters are added to a bare field. -/
theorem foldl_bare {w : List Char} (hw : ∀ c ∈ w, isPlain c = true) (s : State)
    (hs : s.mode = .bare) : w.foldl step s = s.append w := by
  induction w generalizing s with
  | nil => simp [append]
  | cons c w ih =>
    have hc := hw c (List.mem_cons_self ..)
    simp only [isPlain, Bool.and_eq_true, bne_iff_ne] at hc
    have hstep : step s c = s.append [c] := by
      obtain ⟨mode, sawQuote, field, record, done⟩ := s
      obtain rfl : mode = .bare := hs
      simp [step, bareStep, hc, append]
    rw [List.foldl_cons, hstep, ih (fun d hd => hw d (List.mem_cons_of_mem _ hd)) (s.append [c]) hs,
      append_append]
    rfl

/-- Escaped characters are added to a quoted field. -/
theorem foldl_escape (cs : List Char) (s : State) (hs : s.mode = .quoted) :
    (cs.flatMap escape).foldl step s = s.append cs := by
  induction cs generalizing s with
  | nil => simp [append]
  | cons c cs ih =>
    have hstep : (escape c).foldl step s = s.append [c] := by
      obtain ⟨mode, sawQuote, field, record, done⟩ := s
      obtain rfl : mode = .quoted := hs
      -- a quote is read by its second half
      unfold escape
      by_cases hc : c = '"'
      · simp [hc, step, append]
      · simp [hc, step, append]
    rw [List.flatMap_cons, List.foldl_append, hstep, ih (s.append [c]) hs, append_append]
    rfl

/-- After its text a field is complete: the next separator ends it with its value. -/
theorem foldl_text {f : Field} (hf : f.Plain) (record : List (Option String))
    (done : List (List (Option String))) :
    ∃ s : State, f.text.foldl step (start record done) = s ∧ s.mode ≠ .quoted ∧
      s.value = f.value ∧ s.record = record ∧ s.done = done := by
  cases f with
  | null => exact ⟨_, rfl, nofun, rfl, rfl, rfl⟩
  | bare w =>
    refine ⟨_, foldl_bare hf.2 (start record done) rfl, nofun, ?_, rfl, rfl⟩
    have hne : w.isEmpty = false := by simpa using hf.1
    simp [State.value, start, append, hne, Field.value]
  | quoted s =>
    refine ⟨_, rfl, ?_⟩
    have hquote : step (start record done) '"'
        = { start record done with mode := .quoted, sawQuote := true } := rfl
    rw [Field.text, List.foldl_cons, hquote, List.foldl_append, foldl_escape _ _ rfl]
    refine ⟨nofun, ?_, rfl, rfl⟩
    simp [State.value, start, append, step, Field.value]

/-- A separator outside quotes is read as one. -/
theorem step_of_ne_quoted {s : State} (hs : s.mode ≠ .quoted) {c : Char} (hc : c ≠ '"') :
    step s c = s.bareStep c := by
  unfold step
  cases hmode : s.mode with
  | bare => rfl
  | quoted => exact absurd hmode hs
  | closing => simp [hc]

/-- **Reading a written row** adds the record of its values. -/
theorem foldl_row {fs : List Field} (hne : fs ≠ []) (hplain : ∀ f ∈ fs, f.Plain)
    (record : List (Option String)) (done : List (List (Option String))) :
    (row fs).foldl step (start record done)
      = start [] (done ++ [record ++ fs.map Field.value]) := by
  -- By induction on the fields; a comma ends each but the last, which the line end ends.
  induction fs generalizing record with
  | nil => exact absurd rfl hne
  | cons f fs ih =>
    obtain ⟨s, hs, hmode, hvalue, hrecord, hdone⟩ :=
      foldl_text (hplain f (List.mem_cons_self ..)) record done
    cases fs with
    | nil =>
      have hstep : step s '\n' = s.endRecord := by
        rw [step_of_ne_quoted hmode (by decide)]
        rfl
      rw [row, List.foldl_append, hs, List.foldl_cons, List.foldl_nil, hstep, endRecord, hvalue,
        hrecord, hdone]
      rfl
    | cons g fs =>
      have hstep : step s ',' = s.endField := by
        rw [step_of_ne_quoted hmode (by decide)]
        rfl
      have htail := ih (List.cons_ne_nil g fs)
        (fun f hf => hplain f (List.mem_cons_of_mem _ hf)) (record ++ [f.value])
      rw [row, List.foldl_append, hs, List.foldl_cons, hstep, endField, hvalue, hrecord, hdone,
        htail, List.append_assoc]
      rfl

/-- **Reading written rows** gives their values back, in order. -/
theorem parse_rows {rows : List (List Field)}
    (h : ∀ fs ∈ rows, fs ≠ [] ∧ ∀ f ∈ fs, f.Plain) :
    parse (rows.flatMap row) = some (rows.map fun fs => fs.map Field.value) := by
  have hfold : ∀ done, (rows.flatMap row).foldl step (start [] done)
      = start [] (done ++ rows.map fun fs => fs.map Field.value) := by
    induction rows with
    | nil => simp
    | cons fs rows ih =>
      intro done
      obtain ⟨hne, hplain⟩ := h fs (List.mem_cons_self ..)
      rw [List.flatMap_cons, List.foldl_append, foldl_row hne hplain,
        ih fun gs hgs => h gs (List.mem_cons_of_mem _ hgs)]
      simp
  unfold parse
  rw [hfold []]
  rfl

end Datacat.Basics.Csv
