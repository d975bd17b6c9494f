import Datasheet.Formula.Expr

/-!
# What can be wrong with a formula

A formula is rejected for its form (`SyntaxError`), for a name that is no
column, or for its size; and its evaluation on a row may fail (`EvalError`).
-/

namespace Datasheet.Formula

inductive SyntaxError where
  | emptyFormula
  | unterminatedText
  | unexpectedChar (c : Char)
  | unexpectedEnd
  | unexpectedToken (t : Token)
  | notClosed (found : Token)
deriving DecidableEq

inductive EvalError where
  | missingValue (column : String)
  | wrongOperand (op : UnaryOp) (kind : String)
  | wrongOperands (op : ArithOp) (left right : String)
  | divisionByZero
  | notFinite (op : ArithOp)
  | unorderedNaN
  | notComparable (left right : String)
  | noColumn (index : Nat)
  | noRow (index : Nat)
deriving DecidableEq

/-- Why a formula has no tree, or a tree no value. -/
inductive FormulaError where
  | syntactic (e : SyntaxError)
  | unknownName (name : String)
  | tooComplex
  | evaluation (e : EvalError)
deriving DecidableEq

def SyntaxError.message : SyntaxError → String
  | emptyFormula => "empty formula"
  | unterminatedText => "unterminated string literal"
  | unexpectedChar c => "unexpected character '" ++ c.toString ++ "'"
  | unexpectedEnd => "unexpected end of formula"
  | unexpectedToken t => "unexpected token " ++ t.display
  | notClosed found => "expected " ++ Symbol.closeParen.text ++ ", found " ++ found.display

def EvalError.message : EvalError → String
  | missingValue column => "missing value in column '" ++ column ++ "'"
  | wrongOperand op kind =>
    "unsupported operand type for unary " ++ op.symbol.text ++ ": " ++ kind
  | wrongOperands op left right =>
    "unsupported operand types for " ++ op.symbol.text ++ ": " ++ left ++ " and " ++ right
  | divisionByZero => "division by zero"
  | notFinite op => "result of " ++ op.symbol.text ++ " is not a finite number"
  | unorderedNaN => "cannot order NaN"
  | notComparable left right => "cannot order " ++ left ++ " and " ++ right
  | noColumn index => "no column at index " ++ toString index
  | noRow index => "no row " ++ toString index

def FormulaError.message : FormulaError → String
  | syntactic e => "Syntax error: " ++ e.message
  | unknownName name => "Unknown name: " ++ name
  | tooComplex => "Formula is too long or too deeply nested"
  | evaluation e => "Evaluation error: " ++ e.message

end Datasheet.Formula
