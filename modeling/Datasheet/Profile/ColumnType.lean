import Datasheet.Table.Basic

/-!
# Column types

The type of a column is inferred from the cells that hold a value: integers are
floats, and a column that is neither numeric nor boolean throughout is text.
-/

namespace Datasheet

inductive ColumnType where
  | integer
  | float
  | boolean
  | text
  /-- No cell holds a value. -/
  | empty
deriving DecidableEq

namespace ColumnType

def display : ColumnType → String
  | integer => "integer"
  | float => "float"
  | boolean => "boolean"
  | text => "text"
  | empty => "empty"

def isNumeric : ColumnType → Bool
  | integer | float => true
  | boolean | text | empty => false

end ColumnType

namespace Cell

/-- A whole number, or a text that spells a 64-bit integer. -/
def isInteger : Cell → Bool
  | number x => x.isIntegral
  | text s => (parseInt64? (trim s.toList)).isSome
  | _ => false

/-- The truth value of a cell: its own, or the one its text spells in any case. -/
def bool? : Cell → Option Bool
  | bool b => some b
  | text s =>
    let word := (trim s.toList).map Char.toLower
    if word = ['t', 'r', 'u', 'e'] then some true
    else if word = ['f', 'a', 'l', 's', 'e'] then some false
    else none
  | _ => none

end Cell

/-- The type of cells that hold a value. -/
def ColumnType.ofPresent (cells : List Cell) : ColumnType :=
  if cells.isEmpty then .empty
  else if cells.all Cell.isInteger then .integer
  else if cells.all (·.number?.isSome) then .float
  else if cells.all (·.bool?.isSome) then .boolean
  else .text

def Column.type (c : Column) : ColumnType := .ofPresent c.present

end Datasheet
