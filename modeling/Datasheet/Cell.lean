import Datasheet.Binary64.Text
import Datasheet.Text.Space

/-!
# Cells

A cell is missing, a text, a number or a truth value. Every cell has a text
(`Cell.display`), by which it is counted, compared and written; some have a
number (`Cell.number?`), their own or the one their text spells.
-/

namespace Datasheet

inductive Cell where
  | missing
  | text (s : String)
  | number (x : Binary64)
  | bool (b : Bool)
deriving DecidableEq

/-- The finite number that a text spells, white space around it aside. -/
def finiteNumber? (s : String) : Option Binary64 :=
  (Binary64.parse? (trim s.toList)).filter Binary64.isFinite

def boolText (b : Bool) : String := if b then "true" else "false"

namespace Cell

def isMissing : Cell → Bool
  | missing => true
  | _ => false

/-- The text of a cell: empty if it is missing. -/
def display : Cell → String
  | missing => ""
  | text s => s
  | number x => .ofList x.compact
  | bool b => boolText b

/-- The number of a cell: its own, or the finite number that its text spells. -/
def number? : Cell → Option Binary64
  | number x => some x
  | text s => finiteNumber? s
  | _ => none

/-- The texts that stand for a missing value in a file. -/
def missingTexts : List String := ["", "NA", "N/A", "null", "NULL"]

/-- The cell that a field of a file holds. -/
def ofField (s : String) : Cell := if s ∈ missingTexts then missing else text s

end Cell

end Datasheet
