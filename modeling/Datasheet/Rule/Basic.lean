import Datasheet.Formula.Expr
import Datasheet.Json.Read

/-!
# Rules for new columns

A column is filled by a condition on another column, by a formula, or with empty
texts. A condition keeps its operator as text, so that an unknown one is
reported in the cells and not by refusing the rule.
-/

namespace Datasheet

/-- How a condition compares a cell with its value. -/
inductive Comparison where
  | equal
  | notEqual
  | order (op : Formula.OrderOp)
deriving DecidableEq

def Comparison.ofText? (s : String) : Option Comparison :=
  match String.ofList (trim s.toList) with
  | "=" => some equal
  | "!=" => some notEqual
  | ">" => some (order .greater)
  | "<" => some (order .less)
  | ">=" => some (order .greaterEqual)
  | "<=" => some (order .lessEqual)
  | _ => none

/-- If the cell of `column` compares with `value`, then one thing, else another. -/
structure Condition where
  column : Option String
  operator : Option String
  value : Json
  ifTrue : Json
  ifFalse : Json

/-- The text by which a value is compared and shown. -/
def Json.display : Json → String
  | null => ""
  | text s => s
  | int n => .ofList (Binary64.ofInt n).compact
  | float x => .ofList x.compact
  | other => other.toText

/-- The cell that a value stands for. -/
def Json.toCell : Json → Cell
  | null => .missing
  | text s => .text s
  | bool b => .bool b
  | int n => .number (.ofInt n)
  | float x => .number x
  | other => .text other.toText

namespace Condition

/-- Neither a column nor an operator is given. -/
def isBlank (c : Condition) : Bool := c.column.isNone && c.operator.isNone

def comparison? (c : Condition) : Option Comparison := c.operator.bind Comparison.ofText?

/-- The names of the fields, in order. -/
def fieldNames : List String := ["col", "op", "val", "true_val", "false_val"]

/-- The condition of some fields; an absent value is null. -/
def ofSlots? : List (Option Json) → Option Condition
  | [column, operator, value, ifTrue, ifFalse] => do
    return {
      column := ← Json.optionalText? column
      operator := ← Json.optionalText? operator
      value := value.getD .null
      ifTrue := ifTrue.getD .null
      ifFalse := ifFalse.getD .null }
  | _ => none

def ofJson? (j : Json) : Option Condition := do ofSlots? (← j.slots? fieldNames)

/-- The condition of a tree in which values are nested at most `levels` deep. -/
def ofTree? (levels : Nat) (t : Tree) : Option Condition := do
  if levels = 0 then none
  ofSlots? (← (← t.slots? fieldNames).mapM fun slot =>
    match slot with
    | none => some none
    | some tree => (tree.toJson? (levels - 1)).map some)

end Condition

inductive Rule where
  | condition (c : Condition)
  | formula (source : String)
  | blank

namespace Rule

/-- The rule that a request asks for: a condition unless it is blank, else a
formula unless it is white space. -/
def ofRequest (condition : Option Condition) (formula : Option String) : Rule :=
  match condition.filter (!·.isBlank), formula.filter (!Datasheet.isBlank ·.toList) with
  | some c, _ => .condition c
  | none, some source => .formula source
  | none, none => .blank

/-- How a log line names the rule. -/
def kind : Rule → String
  | condition _ => "condition"
  | formula _ => "formula"
  | blank => "empty"

end Rule

end Datasheet
