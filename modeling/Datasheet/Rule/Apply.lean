import Datasheet.Formula.Compile
import Datasheet.Rule.Basic

/-!
# Applying rules

A rule fills one cell for each row of a table. A cell that cannot be computed
holds the marker `ERR`; a rule that cannot be applied at all fills the column
with it. Only a blank name for the column is refused (`Rule.apply`).
-/

namespace Datasheet

/-- The cell of a value that could not be computed. -/
def Cell.failed : Cell := .text "ERR"

/-- The number by which a cell is ordered: truth values count as 1 and 0. -/
def Cell.orderNumber? : Cell → Option Binary64
  | .bool b => some (.ofNat b.toNat)
  | other => other.number?

/-- Whether a cell compares with a text: as texts for equality, as numbers for
order; none if either is no number. -/
def Comparison.holds? (op : Comparison) (c : Cell) (expected : String) : Option Bool :=
  match op with
  | equal => some (c.display = expected)
  | notEqual => some (c.display ≠ expected)
  | order op => do
    let x ← c.orderNumber?
    let y ← finiteNumber? expected
    return match op with
      | .less => x.lt y
      | .lessEqual => x.le y
      | .greater => y.lt x
      | .greaterEqual => y.le x

namespace Table

/-- The cells that a condition gives. -/
def conditionCells (t : Table) (c : Condition) : List Cell :=
  match c.column.bind t.column?, c.comparison? with
  | some source, some op =>
    source.cells.map fun cell =>
      match op.holds? cell c.value.display with
      | some true => c.ifTrue.toCell
      | some false => c.ifFalse.toCell
      | none => .failed
  | _, _ => List.replicate t.rowCount .failed

/-- The cells that a formula gives. -/
def formulaCells (t : Table) (source : String) : List Cell :=
  match Formula.compile source t.names with
  | .error _ => List.replicate t.rowCount .failed
  | .ok e =>
    (List.range t.rowCount).map fun row =>
      match Formula.evalCell t row e with
      | .ok cell => cell
      | .error _ => .failed

def addConditionColumn (t : Table) (name : String) (c : Condition) : Except Failure Table :=
  t.withColumn ⟨name, t.conditionCells c⟩

def addFormulaColumn (t : Table) (name source : String) : Except Failure Table :=
  t.withColumn ⟨name, t.formulaCells source⟩

def addBlankColumn (t : Table) (name : String) : Except Failure Table :=
  t.withColumn ⟨name, List.replicate t.rowCount (.text "")⟩

end Table

/-- A new column needs a name. -/
def blankName : Failure := ⟨.validation, "New column name is required"⟩

/-- Adds the column of a rule to a table, in the place of one of its name if
there is one. -/
def Rule.apply (r : Rule) (t : Table) (name : String) : Except Failure Table :=
  if Datasheet.isBlank name.toList then .error blankName
  else
    match r with
    | condition c => t.addConditionColumn name c
    | formula source => t.addFormulaColumn name source
    | blank => t.addBlankColumn name

end Datasheet
