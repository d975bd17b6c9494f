import Datasheet.Formula.Token

/-!
# Expressions

The values of formulas and the trees that are evaluated to them. Arithmetic and
ordering operators are types of their own, so that each is evaluated by a
function without further cases.
-/

namespace Datasheet.Formula

inductive Value where
  | number (x : Binary64)
  | text (s : String)
  | bool (b : Bool)
deriving DecidableEq

/-- The kind of a value, as messages name it. -/
def Value.kind : Value → String
  | number _ => "number"
  | text _ => "text"
  | bool _ => "bool"

inductive UnaryOp where
  | plus
  | minus
  | not
deriving DecidableEq

/-- The operators that make a number of two. -/
inductive ArithOp where
  | add
  | subtract
  | multiply
  | divide
  | floorDivide
  | modulo
  | power
deriving DecidableEq

/-- The operators that compare the order of two values. -/
inductive OrderOp where
  | less
  | lessEqual
  | greater
  | greaterEqual
deriving DecidableEq

inductive BinaryOp where
  | or
  | and
  | equal
  | notEqual
  | order (op : OrderOp)
  | arith (op : ArithOp)
deriving DecidableEq

inductive Expr where
  | literal (v : Value)
  | column (index : Nat)
  | unary (op : UnaryOp) (operand : Expr)
  | binary (op : BinaryOp) (left right : Expr)
deriving DecidableEq

/-! ## Operators and their symbols -/

def UnaryOp.symbol : UnaryOp → Symbol
  | plus => .plus
  | minus => .minus
  | not => .not

def ArithOp.symbol : ArithOp → Symbol
  | add => .plus
  | subtract => .minus
  | multiply => .times
  | divide => .divide
  | floorDivide => .floorDivide
  | modulo => .modulo
  | power => .power

def OrderOp.symbol : OrderOp → Symbol
  | less => .less
  | lessEqual => .lessEqual
  | greater => .greater
  | greaterEqual => .greaterEqual

def BinaryOp.symbol : BinaryOp → Symbol
  | or => .or
  | and => .and
  | equal => .equal
  | notEqual => .notEqual
  | order op => op.symbol
  | arith op => op.symbol

/-- The operator that a symbol is before an operand. -/
def UnaryOp.ofSymbol? : Symbol → Option UnaryOp
  | .plus => some plus
  | .minus => some minus
  | .not => some not
  | _ => none

/-- The operator that a symbol is between two operands. -/
def BinaryOp.ofSymbol? : Symbol → Option BinaryOp
  | .plus => some (arith .add)
  | .minus => some (arith .subtract)
  | .times => some (arith .multiply)
  | .divide => some (arith .divide)
  | .floorDivide => some (arith .floorDivide)
  | .modulo => some (arith .modulo)
  | .power => some (arith .power)
  | .equal => some equal
  | .notEqual => some notEqual
  | .less => some (order .less)
  | .lessEqual => some (order .lessEqual)
  | .greater => some (order .greater)
  | .greaterEqual => some (order .greaterEqual)
  | .and => some and
  | .or => some or
  | .not | .openParen | .closeParen => none

theorem UnaryOp.ofSymbol?_eq_some {s : Symbol} {op : UnaryOp} :
    ofSymbol? s = some op ↔ s = op.symbol := by
  cases s <;> cases op <;> simp [ofSymbol?, symbol]

theorem BinaryOp.ofSymbol?_symbol (op : BinaryOp) : ofSymbol? op.symbol = some op := by
  rcases op with _ | _ | _ | _ | op | op <;> first | rfl | (cases op <;> rfl)

/-! ## Precedence -/

/-- How tightly an operator binds the operand after it. -/
def UnaryOp.precedence : UnaryOp → Nat
  | not => 3
  | plus | minus => 7

/-- How tightly an operator binds; a greater number binds tighter. -/
def BinaryOp.precedence : BinaryOp → Nat
  | or => 1
  | and => 2
  | equal | notEqual | order _ => 4
  | arith .add | arith .subtract => 5
  | arith .multiply | arith .divide | arith .floorDivide | arith .modulo => 6
  | arith .power => 8

/-- The least precedence inside the right operand: powers group to the right,
all other operators to the left. -/
def BinaryOp.rightPrecedence : BinaryOp → Nat
  | arith .power => 8
  | op => op.precedence + 1

end Datasheet.Formula
