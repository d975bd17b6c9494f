import Datasheet.Formula.Error

/-!
# From tokens to expressions

An expression is an operand followed by operators of at least a given precedence
with their right operands (`climb`). Each operand of a prefix operator, each
right operand and each content of parentheses is one level deeper, and there are
`maxDepth` levels (`parseAt` recurses on those that are left). A rest of the
tokens is returned with the proof that it is shorter, which is why `climb` ends.
-/

namespace Datasheet.Formula

/-- How many levels an expression may have. -/
def maxDepth : Nat := 64

/-- An expression read from the start of some tokens, and the tokens after it. -/
abbrev Parsed (tokens : List Token) := Expr × { rest : List Token // rest.length < tokens.length }

/-- Reads operators of at least precedence `least` and their right operands after
the expression `left`. -/
def climb (operand : Nat → (tokens : List Token) → Except FormulaError (Parsed tokens))
    (least : Nat) (left : Expr) (tokens : List Token) :
    Except FormulaError (Expr × { rest : List Token // rest.length ≤ tokens.length }) :=
  match tokens with
  | .symbol s :: rest =>
    match BinaryOp.ofSymbol? s with
    | none => .ok (left, ⟨.symbol s :: rest, Nat.le_refl _⟩)
    | some op =>
      if op.precedence < least then .ok (left, ⟨.symbol s :: rest, Nat.le_refl _⟩)
      else
        match operand op.rightPrecedence rest with
        | .error e => .error e
        | .ok (right, ⟨rest', shorter⟩) =>
          match climb operand least (.binary op left right) rest' with
          | .error e => .error e
          | .ok (expr, ⟨rest'', le⟩) => .ok (expr, ⟨rest'', by simp only [List.length_cons]; omega⟩)
  | tokens => .ok (left, ⟨tokens, Nat.le_refl _⟩)
termination_by tokens.length
decreasing_by simp only [List.length_cons]; omega

/-- A literal, a column or an expression in parentheses. -/
def parseAtom (operand : Nat → (tokens : List Token) → Except FormulaError (Parsed tokens)) :
    (tokens : List Token) → Except FormulaError (Parsed tokens)
  | [] => .error (.syntactic .unexpectedEnd)
  | .number x :: rest => .ok (.literal (.number x), ⟨rest, Nat.lt_succ_self _⟩)
  | .text s :: rest => .ok (.literal (.text s), ⟨rest, Nat.lt_succ_self _⟩)
  | .bool b :: rest => .ok (.literal (.bool b), ⟨rest, Nat.lt_succ_self _⟩)
  | .column index :: rest => .ok (.column index, ⟨rest, Nat.lt_succ_self _⟩)
  | .symbol .openParen :: rest =>
    match operand 0 rest with
    | .error e => .error e
    | .ok (_, ⟨[], _⟩) => .error (.syntactic .unexpectedEnd)
    | .ok (expr, ⟨t :: rest', shorter⟩) =>
      if t = .symbol .closeParen then
        .ok (expr, ⟨rest', by simp only [List.length_cons] at *; omega⟩)
      else .error (.syntactic (.notClosed t))
  | .symbol s :: _ => .error (.syntactic (.unexpectedToken (.symbol s)))

/-- A prefix operator with its operand, or an atom. -/
def parsePrimary (operand : Nat → (tokens : List Token) → Except FormulaError (Parsed tokens))
    (tokens : List Token) : Except FormulaError (Parsed tokens) :=
  match tokens with
  | .symbol s :: rest =>
    match UnaryOp.ofSymbol? s with
    | none => parseAtom operand (.symbol s :: rest)
    | some op =>
      match operand op.precedence rest with
      | .error e => .error e
      | .ok (expr, ⟨rest', shorter⟩) =>
        .ok (.unary op expr, ⟨rest', by simp only [List.length_cons]; omega⟩)
  | tokens => parseAtom operand tokens

/-- An expression whose operators outside parentheses bind at least as tightly as
`least`, when this many levels are left. -/
def parseAt : Nat → Nat → (tokens : List Token) → Except FormulaError (Parsed tokens)
  | 0, _, _ => .error .tooComplex
  | levels + 1, least, tokens =>
    match parsePrimary (parseAt levels) tokens with
    | .error e => .error e
    | .ok (left, ⟨rest, shorter⟩) =>
      match climb (parseAt levels) least left rest with
      | .error e => .error e
      | .ok (expr, ⟨rest', le⟩) => .ok (expr, ⟨rest', Nat.lt_of_le_of_lt le shorter⟩)

/-- The expression that the tokens form; no token may be left over. -/
def parse (tokens : List Token) : Except FormulaError Expr :=
  if tokens = [] then .error (.syntactic .emptyFormula)
  else
    match parseAt maxDepth 0 tokens with
    | .error e => .error e
    | .ok (expr, ⟨[], _⟩) => .ok expr
    | .ok (_, ⟨t :: _, _⟩) => .error (.syntactic (.unexpectedToken t))

end Datasheet.Formula
