import Datasheet.Formula.Eval
import Datasheet.Formula.Parse
import Datasheet.Formula.Scan
import Datasheet.Table.Basic

/-!
# Formulas over a table

A formula is compiled once against the names of a table's columns (`compile`) and
evaluated for each row (`evalCell`).
-/

namespace Datasheet.Formula

/-- The greatest size of a formula in UTF-8. -/
def maxLength : Nat := 4096

/-- The expression that a formula stands for, with columns by position. -/
def compile (source : String) (names : List String) : Except FormulaError Expr :=
  if maxLength < byteLength source.toList then .error .tooComplex
  else
    match scan names source.toList with
    | .error e => .error e
    | .ok tokens => parse tokens

/-- The value of a column in a row. -/
def lookup (t : Table) (row column : Nat) : Except EvalError Value :=
  match t.columns[column]? with
  | none => .error (.noColumn column)
  | some c =>
    match c.cells[row]? with
    | none => .error (.noRow row)
    | some cell => Value.ofCell c.name cell

theorem lookup_of_getElem? {t : Table} {row column : Nat} {c : Column} {cell : Cell}
    (hc : t.columns[column]? = some c) (hcell : c.cells[row]? = some cell) :
    lookup t row column = Value.ofCell c.name cell := by
  rw [lookup, hc]
  simp only [hcell]

/-- The value of an expression in a row, as a cell. -/
def evalCell (t : Table) (row : Nat) (e : Expr) : Except FormulaError Cell :=
  match e.eval (lookup t row) with
  | .error e => .error (.evaluation e)
  | .ok v => .ok v.toCell

end Datasheet.Formula
