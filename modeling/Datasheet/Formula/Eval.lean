import Datasheet.Formula.Error

/-!
# The value of an expression

An expression is evaluated against the values of columns (`Expr.eval`). Truth
values count as 1 and 0 in arithmetic and comparisons; texts are joined by `+`
and ordered among themselves, and are numbers only where a cell binds as one.
An operator's result has to be a finite number.
-/

namespace Datasheet.Formula

namespace Value

/-- What a cell is bound to: a text that spells a finite number is one. -/
def ofCell (column : String) : Cell → Except EvalError Value
  | .missing => .error (.missingValue column)
  | .number x => .ok (number x)
  | .bool b => .ok (bool b)
  | .text s =>
    match finiteNumber? s with
    | some x => .ok (number x)
    | none => .ok (text s)

def toCell : Value → Cell
  | number x => .number x
  | text s => .text s
  | bool b => .bool b

/-- Zero, the empty text and `false` are not truthy; NaN is. -/
def isTruthy : Value → Bool
  | number x => !x.isZero
  | text s => s ≠ ""
  | bool b => b

/-- The number that a value counts as. -/
def number? : Value → Option Binary64
  | number x => some x
  | bool b => some (.ofNat b.toNat)
  | text _ => none

/-- Equality of texts and of numbers; a text never equals a number. -/
def equals : Value → Value → Bool
  | text s, text t => s = t
  | left, right =>
    match left.number?, right.number? with
    | some x, some y => x.eqv y
    | _, _ => false

/-- The order of two texts, character by character, or of two numbers. -/
def order (left right : Value) : Except EvalError Ordering :=
  match left, right with
  | text s, text t => .ok (if s < t then .lt else if s = t then .eq else .gt)
  | left, right =>
    match left.number?, right.number? with
    | some x, some y =>
      match x.compare? y with
      | some o => .ok o
      | none => .error .unorderedNaN
    | _, _ => .error (.notComparable left.kind right.kind)

end Value

/-- Whether an order of the operands is one that the operator asks for. -/
def OrderOp.holds : OrderOp → Ordering → Bool
  | less, o => o = .lt
  | lessEqual, o => o ≠ .gt
  | greater, o => o = .gt
  | greaterEqual, o => o ≠ .lt

/-- Whether the operator divides by its right operand. -/
def ArithOp.divides : ArithOp → Bool
  | divide | floorDivide | modulo => true
  | add | subtract | multiply | power => false

def ArithOp.apply : ArithOp → Binary64 → Binary64 → Binary64
  | add, x, y => x.add y
  | subtract, x, y => x.sub y
  | multiply, x, y => x.mul y
  | divide, x, y => x.div y
  | floorDivide, x, y => (x.div y).floor
  | modulo, x, y => x.modulo y
  | power, x, y => x.pow y

/-- An operator on numbers. There is no failure for an operator that is not an arithmetic
operator, since all others are of other types. -/
def ArithOp.eval (op : ArithOp) (left right : Value) : Except EvalError Value :=
  match left.number?, right.number? with
  | some x, some y =>
    if op.divides && y.isZero then .error .divisionByZero
    else if (op.apply x y).isFinite then .ok (.number (op.apply x y))
    else .error (.notFinite op)
  | _, _ => .error (.wrongOperands op left.kind right.kind)

def UnaryOp.eval (op : UnaryOp) (v : Value) : Except EvalError Value :=
  match op, v.number? with
  | not, _ => .ok (.bool !v.isTruthy)
  | plus, some x => .ok (.number x)
  | minus, some x => .ok (.number x.neg)
  | op, none => .error (.wrongOperand op v.kind)

/-- An operator on two values; of `and` and `or` it is the case that the left
operand does not decide. -/
def BinaryOp.eval (op : BinaryOp) (left right : Value) : Except EvalError Value :=
  match op, left, right with
  | or, _, right | and, _, right => .ok right
  | equal, left, right => .ok (.bool (left.equals right))
  | notEqual, left, right => .ok (.bool !left.equals right)
  | order op, left, right => (left.order right).map fun o => .bool (op.holds o)
  | arith .add, .text s, .text t => .ok (.text (s ++ t))
  | arith op, left, right => op.eval left right

/-- Whether the left operand decides the value alone. -/
def BinaryOp.decidedBy : BinaryOp → Value → Bool
  | and, left => !left.isTruthy
  | or, left => left.isTruthy
  | _, _ => false

/-- The value of an expression, given the value of each column. `and` and `or`
give the operand that decides them and leave the right one alone if they can. -/
def Expr.eval (lookup : Nat → Except EvalError Value) : Expr → Except EvalError Value
  | literal v => .ok v
  | column index => lookup index
  | unary op operand =>
    match operand.eval lookup with
    | .error e => .error e
    | .ok v => op.eval v
  | binary op left right =>
    match left.eval lookup with
    | .error e => .error e
    | .ok v =>
      if op.decidedBy v then .ok v
      else
        match right.eval lookup with
        | .error e => .error e
        | .ok w => op.eval v w

end Datasheet.Formula
