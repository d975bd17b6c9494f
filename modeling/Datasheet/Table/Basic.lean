import Datasheet.Cell
import Datasheet.Failure
import Datasheet.Table.Header

/-!
# Tables

A table is a list of named columns and a number of rows, which outlives the
last column. It is well-formed (`Table.WellFormed`) if its columns have as many
cells as it has rows and different names.
-/

namespace Datasheet

structure Column where
  name : String
  cells : List Cell
deriving DecidableEq

/-- A column's cells that hold a value. -/
def Column.present (c : Column) : List Cell := c.cells.filter (!·.isMissing)

structure Table where
  columns : List Column
  rowCount : Nat
deriving DecidableEq

/-- A row as pairs of column name and cell, in column order. -/
abbrev Record := List (String × Cell)

namespace Table

/-- No columns and no rows. -/
def empty : Table := ⟨[], 0⟩

def names (t : Table) : List String := t.columns.map Column.name

/-- Every column has a cell for each row, and no two have one name. -/
structure WellFormed (t : Table) : Prop where
  length_cells : ∀ c ∈ t.columns, c.cells.length = t.rowCount
  names_nodup : t.names.Nodup

/-- The table under a header line: short rows are padded with missing cells,
long ones cut. -/
def ofRows (headers : List String) (rows : List (List Cell)) : Table where
  columns := (uniqueNames headers).mapIdx fun i name =>
    ⟨name, rows.map fun row => row[i]?.getD .missing⟩
  rowCount := rows.length

/-- The first column of a name. -/
def column? (t : Table) (name : String) : Option Column := t.columns.find? (·.name = name)

/-- A row; columns too short for it are left out. -/
def row (t : Table) (index : Nat) : Record :=
  t.columns.filterMap fun c => c.cells[index]?.map (c.name, ·)

/-- The first rows, at most `limit`. -/
def records (t : Table) (limit : Option Nat) : List Record :=
  (List.range (min (limit.getD t.rowCount) t.rowCount)).map t.row

/-- Puts a column in the place of the first one of its name, else at the end. -/
def replaceColumn (new : Column) : List Column → List Column
  | [] => [new]
  | c :: cs => if c.name = new.name then new :: cs else c :: replaceColumn new cs

/-- Why a column does not fit a table. -/
def lengthMismatch (t : Table) (c : Column) : Failure :=
  ⟨.internal, "Column '" ++ c.name ++ "' has " ++ toString c.cells.length ++
    " cells, table has " ++ toString t.rowCount ++ " rows"⟩

/-- The table with a column added, or replaced if there is one of its name. A
table without columns takes its number of rows from the new column. -/
def withColumn (t : Table) (c : Column) : Except Failure Table :=
  if t.columns.isEmpty then .ok ⟨[c], c.cells.length⟩
  else if c.cells.length ≠ t.rowCount then .error (t.lengthMismatch c)
  else .ok ⟨replaceColumn c t.columns, t.rowCount⟩

/-- The table without the columns of these names. -/
def dropColumns (t : Table) (names : List String) : Table :=
  { t with columns := t.columns.filter (·.name ∉ names) }

end Table

/-- The columns of a table and its first rows. -/
structure TablePage where
  columns : List String
  rows : List Record
  totalRows : Nat

def Table.page (t : Table) (limit : Nat) : TablePage where
  columns := t.names
  rows := t.records (some limit)
  totalRows := t.rowCount

end Datasheet
