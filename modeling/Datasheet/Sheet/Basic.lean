import Datasheet.Sheet.Calendar
import Datasheet.Table.Basic

/-!
# Worksheets

A worksheet is a list of rows of typed cells. Its first row is the header of the
table it holds (`Sheet.toTable`); a worksheet without rows holds the empty table.
-/

namespace Datasheet

inductive SheetCell where
  | empty
  | whole (n : Int)
  | number (x : Binary64)
  | text (s : String)
  | bool (b : Bool)
  | error
  /-- A date or a duration as text. -/
  | isoText (s : String)
  | serial (epoch : Epoch) (days : Binary64)
deriving DecidableEq

namespace SheetCell

/-- What a cell holds in a table. Dates become text; a date that the calendar
does not reach is missing. -/
def toCell : SheetCell → Cell
  | empty | error => .missing
  | whole n => .number (.ofInt n)
  | number x => .number x
  | text s => .ofField s
  | bool b => .bool b
  | isoText s => .text s
  | serial epoch days =>
    match Instant.ofSerial? epoch days with
    | some t => .text (.ofList t.text)
    | none => .missing

end SheetCell

/-- The rows of a worksheet; short rows are filled up with empty cells. -/
abbrev Sheet := List (List SheetCell)

namespace Sheet

/-- How many columns a worksheet with rows has. -/
def width (s : Sheet) : Nat := s.foldl (fun widest row => max widest row.length) 1

def toTable (s : Sheet) : Table :=
  match s with
  | [] => .empty
  | header :: rows =>
    let filled := header ++ List.replicate (width s - header.length) .empty
    .ofRows (filled.map (·.toCell.display)) (rows.map (·.map SheetCell.toCell))

/-- A list without the elements at its end for which `p` holds. -/
def dropEnd {α : Type} (p : α → Bool) (xs : List α) : List α :=
  (xs.reverse.dropWhile p).reverse

/-- The smallest rectangle that holds every cell that is not empty. -/
def crop (s : Sheet) : Sheet :=
  let rows := (s.map (dropEnd (· = .empty))).dropWhile List.isEmpty
  let rows := dropEnd List.isEmpty rows
  let margins := (rows.filter (!·.isEmpty)).map fun row => (row.takeWhile (· = .empty)).length
  rows.map (·.drop (margins.min?.getD 0))

end Sheet

end Datasheet
