import Datasheet.Binary64.Text
import Datasheet.Cell

/-!
# Tokens of formulas

The words of the formula language: literals, references to columns by position,
and symbols. A symbol's `text` is its main spelling.
-/

namespace Datasheet.Formula

/-- Operators and parentheses. -/
inductive Symbol where
  | plus
  | minus
  | times
  | divide
  | floorDivide
  | modulo
  | power
  | equal
  | notEqual
  | less
  | lessEqual
  | greater
  | greaterEqual
  | and
  | or
  | not
  | openParen
  | closeParen
deriving DecidableEq

def Symbol.text : Symbol → String
  | plus => "+"
  | minus => "-"
  | times => "*"
  | divide => "/"
  | floorDivide => "//"
  | modulo => "%"
  | power => "**"
  | equal => "=="
  | notEqual => "!="
  | less => "<"
  | lessEqual => "<="
  | greater => ">"
  | greaterEqual => ">="
  | and => "and"
  | or => "or"
  | not => "not"
  | openParen => "("
  | closeParen => ")"

inductive Token where
  | number (x : Binary64)
  | text (s : String)
  | bool (b : Bool)
  /-- A reference to the column at a position. -/
  | column (index : Nat)
  | symbol (s : Symbol)
deriving DecidableEq

/-- How a message names a token. -/
def Token.display : Token → String
  | number x => .ofList x.display
  | text s => "'" ++ s ++ "'"
  | bool b => boolText b
  | column index => "column #" ++ toString index
  | symbol s => s.text

end Datasheet.Formula
