import Datasheet.Csv.Delimiter
import Datasheet.Table.Basic

/-!
# Tables from delimited text

The first record is the header; of the others, those with another number of
fields are skipped. A text without any record is no table.
-/

namespace Datasheet.Csv

/-- What a text was read as. -/
structure Document where
  delimiter : Delimiter
  table : Table
  /-- How many records had another width than the header. -/
  skipped : Nat

/-- There is no header record. -/
def noColumns : Failure := ⟨.malformedFile, "No columns to parse from file"⟩

/-- The table of some records under a header. -/
def tableOf (header : List (List Char)) (rows : List (List (List Char))) : Table :=
  .ofRows (header.map String.ofList) (rows.map (·.map fun field => .ofField (.ofList field)))

/-- Reads a text with a known delimiter. The text is in memory and made of characters, so
none of its records is unreadable. -/
def readWith (d : Delimiter) (text : List Char) : Except Failure Document :=
  match records d.char text with
  | [] => .error noColumns
  | header :: rows =>
    let fitting := rows.filter (·.length = header.length)
    .ok ⟨d, tableOf header fitting, rows.length - fitting.length⟩

/-- Reads a text, from which one byte-order mark is dropped before the
delimiter is sniffed. -/
def read (text : List Char) : Except Failure Document :=
  readWith (sniff (dropMark text)) (dropMark text)

/-- The table that a text holds. -/
def readTable (text : String) : Except Failure Table :=
  (read text.toList).map Document.table

end Datasheet.Csv
