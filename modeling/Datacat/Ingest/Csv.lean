import Datacat.Basics.Csv
import Datacat.Basics.Digest
import Datacat.Basics.Float64
import Datacat.Basics.Time

/-!
# Rows of a Batch

What a record must provide to be written in batches, and the text of a batch. The fields of a
row come in the order of the columns of the `COPY` statement.

## Main results

- `parse_batch`: the database reads from the text of a batch the columns of its records.
-/

namespace Datacat.Ingest

open Basics

/-- A record that is stored by micro-batches and `COPY`. -/
class Ingestable (T : Type) where
  copyStatement : String
  ensurePartitionsStatement : String
  mergeStatement : String
  stagingTable : String
  label : String
  /-- The text that a record adds to the batch. -/
  writeCsvRow : T → List Char

/-! ## Fields -/

/-- A quoted text: only the quote is special, and is doubled. -/
def pushCsvQuoted (s : String) : List Char :=
  '"' :: ((s.toList.flatMap fun c => if c = '"' then ['"', c] else [c]) ++ ['"'])

/-- An optional text: nothing, that is NULL, when it is absent. -/
def pushCsvOpt (value : Option String) : List Char :=
  match value with
  | some v => pushCsvQuoted v
  | none => []

def pushCsvTs (ts : Option DateTime) : List Char :=
  match ts with
  | some t => t.toRfc3339.toList
  | none => []

def pushCsvNum (n : Option Int64) : List Char :=
  match n with
  | some v => (toString v.toInt).toList
  | none => []

def pushCsvF64 (n : Option F64) : List Char :=
  match n with
  | some v => v.display
  | none => []

/-! ## Columns -/

/-- The columns named between the parentheses of a `COPY` statement. -/
def copyColumns (statement : String) : List String :=
  let inside := ((statement.toList.dropWhile (· != '(')).drop 1).takeWhile (· != ')')
  (inside.splitOn ',').map fun name => String.ofList (trim name)

/-- What is known of the text of a record: it is a row of fields, and they are the values of
the columns that the `COPY` statement names. -/
class Columns (T : Type) extends Ingestable T where
  fields : T → List Csv.Field
  /-- The value of a column, none for NULL. -/
  column : T → String → Option String
  writeCsvRow_eq : ∀ r, writeCsvRow r = Csv.row (fields r)
  plain : ∀ r, ∀ f ∈ fields r, f.Plain
  value_fields : ∀ r, (fields r).map Csv.Field.value = (copyColumns copyStatement).map (column r)
  fields_ne_nil : ∀ r, fields r ≠ []

/-- The text that a flush sends. -/
def batchText {T : Type} [Ingestable T] (buf : List T) : List Char :=
  buf.flatMap Ingestable.writeCsvRow

/-- **Reading a batch**: one record for each of the batch, in order, with the values of its
columns. -/
theorem parse_batch {T : Type} [Columns T] (buf : List T) :
    Csv.parse (batchText buf) =
      some (buf.map fun r => (copyColumns (Ingestable.copyStatement T)).map (Columns.column r)) := by
  have htext : batchText buf = (buf.map Columns.fields).flatMap Csv.row := by
    rw [batchText, List.flatMap_map]
    exact List.flatMap_congr fun r _ => Columns.writeCsvRow_eq r
  rw [htext, Csv.parse_rows, List.map_map]
  · refine congrArg some (List.map_congr_left fun r _ => ?_)
    exact Columns.value_fields r
  · intro fs hfs
    obtain ⟨r, -, rfl⟩ := List.mem_map.mp hfs
    exact ⟨Columns.fields_ne_nil r, Columns.plain r⟩

end Datacat.Ingest
