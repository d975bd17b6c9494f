import Datasheet.Failure
import Datasheet.Text.Lowercase

/-!
# File names and formats

The format of a file is told by the extension of its name: what follows the last
point of the last part of a path, in lower case.
-/

namespace Datasheet

/-- The parts of a path; empty parts and single points name nothing. -/
def pathParts (path : List Char) : List (List Char) :=
  (path.splitOn '/').filter fun part => part ≠ [] && part ≠ ['.']

/-- The extension of a file name without its point. A name has none if it is
empty, goes up, or has its only point at the start. -/
def fileExtension? (name : String) : Option String := do
  let last ← (pathParts name.toList).getLast?
  let tail := last.reverse.takeWhile (· ≠ '.')
  let stem := last.reverse.drop (tail.length + 1)
  if last = ['.', '.'] || stem = [] then none
  else some (.ofList (lowercase tail.reverse))

inductive WorkbookFormat where
  | xlsx
  | xls
deriving DecidableEq

def WorkbookFormat.label : WorkbookFormat → String
  | xlsx => "xlsx"
  | xls => "xls"

inductive FileFormat where
  | csv
  | workbook (format : WorkbookFormat)
deriving DecidableEq

namespace FileFormat

def label : FileFormat → String
  | csv => "csv"
  | workbook format => format.label

/-- A file of no known format. -/
def unsupported : Failure :=
  ⟨.unsupportedFormat, "Unsupported file type. Please upload CSV or Excel files."⟩

def ofName (name : String) : Except Failure FileFormat :=
  match fileExtension? name with
  | some "csv" => .ok csv
  | some "xlsx" => .ok (workbook .xlsx)
  | some "xls" => .ok (workbook .xls)
  | _ => .error unsupported

end FileFormat

end Datasheet
