import Datasheet.Profile.Frequency
import Datasheet.Profile.Summary

/-!
# Profiles

What there is to know about a table at a glance: for each column its type, how
many cells are missing, the most frequent values and, if it is numeric, a
summary; and the first rows with their numbers read.
-/

namespace Datasheet

structure ColumnProfile where
  name : String
  type : ColumnType
  missing : Nat
  missingPercentage : Binary64
  unique : Nat
  top : List (String × Nat)
  summary : Option Summary
deriving DecidableEq

structure Profile where
  rows : Nat
  columns : List ColumnProfile
  preview : List Record
deriving DecidableEq

namespace Profile

/-- How many rows the preview shows. -/
def previewRows : Nat := 5

/-- How many of the most frequent values a profile lists. -/
def topValues : Nat := 5

/-- A share in percent, rounded to two places; none of nothing is zero. -/
def percentage (count total : Nat) : Binary64 :=
  if total = 0 then .zero false
  else
    let percent := ((Binary64.ofNat count).div (.ofNat total)).mul (.ofNat 100)
    (percent.mul (.ofNat 100)).roundAway.div (.ofNat 100)

def ofColumn (rows : Nat) (c : Column) : ColumnProfile :=
  let missing := c.cells.countP Cell.isMissing
  let keys := c.present.map (Cell.countingKey c.type)
  { name := c.name
    type := c.type
    missing
    missingPercentage := percentage missing rows
    unique := (distinct keys).length
    top := (ranking keys).take topValues
    summary := if c.type.isNumeric then Summary.of? (c.present.filterMap Cell.number?) else none }

/-- A cell as the preview shows it: in a numeric column as its number. -/
def previewCell (type : ColumnType) (c : Cell) : Cell :=
  if type.isNumeric then (c.number?.map Cell.number).getD c else c

def previewRow (t : Table) (index : Nat) : Record :=
  t.columns.filterMap fun c => c.cells[index]?.map fun cell => (c.name, previewCell c.type cell)

def ofTable (t : Table) : Profile where
  rows := t.rowCount
  columns := t.columns.map (ofColumn t.rowCount)
  preview := (List.range (min t.rowCount previewRows)).map (previewRow t)

/-- The summaries of the numeric columns. -/
def numericStats (p : Profile) : List (String × Summary) :=
  p.columns.filterMap fun c => c.summary.map (c.name, ·)

end Profile

end Datasheet
