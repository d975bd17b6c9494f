import Datasheet.Formula.Compile
import Datasheet.Proofs.Formula.Climb
import Datasheet.Proofs.Formula.Tokens

/-!
# Columns under other numbers

A formula refers to columns by their positions. If the columns stand at other
positions (`Token.renumber`), nothing else changes, step by step:

* `scanFrom_renumber`: the same text gives the renumbered tokens, if the same keys
  are found with renumbered columns;
* `parse_renumber`: renumbered tokens form the renumbered expression, or none if
  they formed none before;
* `eval_renumber`: which has the same value where the columns have.

So a formula has an expression over both numberings or over neither
(`compile_renumber`).
-/

namespace Datasheet.Formula

/-- The token with the column `f i` in the place of the column `i`. -/
def Token.renumber (f : Nat → Nat) : Token → Token
  | column index => column (f index)
  | other => other

def Expr.renumber (f : Nat → Nat) : Expr → Expr
  | literal v => literal v
  | column index => column (f index)
  | unary op operand => unary op (operand.renumber f)
  | binary op left right => binary op (left.renumber f) (right.renumber f)

def ColumnKey.renumber (f : Nat → Nat) (key : ColumnKey) : ColumnKey :=
  { key with index := f key.index }

variable {f : Nat → Nat}

/-! ## Values -/

/-- The literals and columns of an expression, from left to right. -/
def Expr.atoms : Expr → List Expr
  | literal v => [literal v]
  | column index => [column index]
  | unary _ operand => operand.atoms
  | binary _ left right => left.atoms ++ right.atoms

/-- Columns that do not occur in an expression have no say in its value. -/
theorem eval_renumber_of_atoms {lookup lookup' : Nat → Except EvalError Value} {e : Expr}
    (h : ∀ i, .column i ∈ e.atoms → lookup' (f i) = lookup i) :
    (e.renumber f).eval lookup' = e.eval lookup := by
  induction e with
  | literal v => rfl
  | column index => exact h index List.mem_cons_self
  | unary op operand ih => rw [Expr.renumber, Expr.eval, Expr.eval, ih h]
  | binary op left right ihl ihr =>
    rw [Expr.renumber, Expr.eval, Expr.eval, ihl fun i hi => h i (List.mem_append_left _ hi),
      ihr fun i hi => h i (List.mem_append_right _ hi)]

theorem eval_renumber {lookup lookup' : Nat → Except EvalError Value}
    (h : ∀ index, lookup' (f index) = lookup index) (e : Expr) :
    (e.renumber f).eval lookup' = e.eval lookup :=
  eval_renumber_of_atoms fun index _ => h index

/-! ## Expressions -/

/-- An answer of the reader with other numbers. -/
def renumberAnswer (f : Nat → Nat) : Expr × List Token → Expr × List Token :=
  Prod.map (Expr.renumber f) (List.map (Token.renumber f))

theorem stops_renumber {least : Nat} {ts : List Token} (h : Stops least ts) :
    Stops least (ts.map (Token.renumber f)) := by
  intro op us hts
  cases ts with
  | nil => cases hts
  | cons t ts =>
    cases t with
    | symbol s => exact h op ts (congrArg (· :: ts) (List.cons.inj hts).1)
    | _ => cases hts

/-- A reader of operands that answers renumbered tokens with the renumbered answer. -/
def Renumbers (f : Nat → Nat)
    (operand : Nat → (tokens : List Token) → Except FormulaError (Parsed tokens)) : Prop :=
  ∀ least ts, (outcome (operand least (ts.map (Token.renumber f)))).toOption =
    (outcome (operand least ts)).toOption.map (renumberAnswer f)

theorem closing_renumber (answer : Expr × List Token) :
    (closing (renumberAnswer f answer)).toOption =
      (closing answer).toOption.map (renumberAnswer f) := by
  obtain ⟨e, ts⟩ := answer
  cases ts with
  | nil => rfl
  | cons t ts =>
    by_cases ht : t = .symbol .closeParen
    · subst ht
      rfl
    · have hrenumbered : t.renumber f ≠ .symbol .closeParen := by
        cases t <;> simp_all [Token.renumber]
      show (closing (e.renumber f, t.renumber f :: ts.map (Token.renumber f))).toOption = _
      rw [closing, closing, if_neg ht, if_neg hrenumbered]
      rfl

section Operand

variable {operand : Nat → (tokens : List Token) → Except FormulaError (Parsed tokens)}
  (hoperand : Renumbers f operand)

include hoperand

/-- By induction on how many tokens there are, of which each operator takes some. -/
theorem climb_renumber (least : Nat) (left : Expr) (ts : List Token) :
    (outcome (climb operand least (left.renumber f) (ts.map (Token.renumber f)))).toOption =
      (outcome (climb operand least left ts)).toOption.map (renumberAnswer f) := by
  induction ts using (measure List.length).wf.induction generalizing left with
  | _ ts ih =>
    by_cases hstop : Stops least ts
    · rw [climb_stop hstop, climb_stop (stops_renumber hstop)]
      rfl
    · obtain ⟨op, us, rfl, hle⟩ := exists_of_not_stops hstop
      show (outcome (climb operand least (left.renumber f)
        (.symbol op.symbol :: us.map (Token.renumber f)))).toOption = _
      rw [climb_op hle, climb_op hle, toOption_bind, toOption_bind, hoperand]
      cases operand op.rightPrecedence us with
      | error e => rfl
      | ok answer =>
        obtain ⟨right, vs, hshorter⟩ := answer
        exact ih vs (Nat.lt_succ_of_lt hshorter) (.binary op left right)

theorem prefix_renumber (op : UnaryOp) (ts : List Token) :
    (outcome (parsePrimary operand (.symbol op.symbol :: ts.map (Token.renumber f)))).toOption =
      (outcome (parsePrimary operand (.symbol op.symbol :: ts))).toOption.map
        (renumberAnswer f) := by
  rw [parsePrimary_unary, parsePrimary_unary, toOption_map, toOption_map, hoperand,
    Option.map_map, Option.map_map]
  rfl

theorem parsePrimary_renumber (ts : List Token) :
    (outcome (parsePrimary operand (ts.map (Token.renumber f)))).toOption =
      (outcome (parsePrimary operand ts)).toOption.map (renumberAnswer f) := by
  cases ts with
  | nil => rfl
  | cons t ts =>
    cases t with
    | symbol s =>
      show (outcome (parsePrimary operand (.symbol s :: ts.map (Token.renumber f)))).toOption = _
      cases s with
      | openParen =>
        rw [parsePrimary_paren, parsePrimary_paren, toOption_bind, toOption_bind, hoperand]
        cases outcome (operand 0 ts) with
        | error e => rfl
        | ok answer => exact closing_renumber answer
      | plus => exact prefix_renumber hoperand .plus ts
      | minus => exact prefix_renumber hoperand .minus ts
      | not => exact prefix_renumber hoperand .not ts
      | _ => rfl
    | _ => rfl

end Operand

/-- By induction on the levels left, since each operand is read on the next one. -/
theorem parseAt_renumber (levels : Nat) : Renumbers f (parseAt levels) := by
  induction levels with
  | zero => exact fun _ _ => rfl
  | succ levels ih =>
    intro least ts
    rw [parseAt_succ, parseAt_succ, toOption_bind, toOption_bind, parsePrimary_renumber ih]
    cases outcome (parsePrimary (parseAt levels) ts) with
    | error e => rfl
    | ok answer => exact climb_renumber ih least answer.1 answer.2

theorem parse_renumber (ts : List Token) :
    (parse (ts.map (Token.renumber f))).toOption = (parse ts).toOption.map (Expr.renumber f) := by
  by_cases hts : ts = []
  · subst hts
    rfl
  · rw [parse_eq_bind hts, parse_eq_bind (by simpa using hts), toOption_bind, toOption_bind,
      parseAt_renumber]
    cases outcome (parseAt maxDepth 0 ts) with
    | error e => rfl
    | ok answer =>
      obtain ⟨e, us⟩ := answer
      cases us <;> rfl

/-! ## Tokens -/

/-- A word that is no column's name is the same token under other numbers. -/
theorem renumber_of_wordToken {word : String} {t : Token} (h : wordToken word = .ok t) :
    t.renumber f = t := by
  rcases wordToken_cases h with ⟨s, rfl⟩ | ⟨b, rfl⟩ <;> rfl

section Keys

variable {keys keys' : List ColumnKey}

/-- Of a token that is no text, only the search for a column knows numbers. -/
theorem scanToken_renumber {before : Option Char} {c : Char} {cs : List Char}
    (hkeys : ¬ (c = '"' || c = '\'') = true → keys'.find? (·.fits before (c :: cs)) =
      (keys.find? (·.fits before (c :: cs))).map (ColumnKey.renumber f)) :
    scanToken keys' before c cs =
      (scanToken keys before c cs).map fun (token, length) => (token.renumber f, length) := by
  rw [scanToken, scanToken]
  by_cases hquote : (c = '"' || c = '\'') = true
  · rw [if_pos hquote, if_pos hquote]
    cases scanText c cs <;> rfl
  · rw [if_neg hquote, if_neg hquote, hkeys hquote]
    cases keys.find? (·.fits before (c :: cs)) with
    | some key => rfl
    | none =>
      dsimp only [Option.map_none]
      split
      · rfl
      · split
        · cases hword : wordToken (.ofList (c :: cs.takeWhile isNameChar)) with
          | error e => rfl
          | ok token =>
            show Except.ok (token, (cs.takeWhile isNameChar).length) = .ok (token.renumber f, _)
            rw [renumber_of_wordToken hword]
        · cases scanSymbol? c cs.head? <;> rfl

section Everywhere

variable (hkeys : ∀ before rest, keys'.find? (·.fits before rest) =
  (keys.find? (·.fits before rest)).map (ColumnKey.renumber f))

include hkeys

/-- By induction on how many characters there are, of which each token takes some. -/
theorem scanFrom_renumber (before : Option Char) (text : List Char) :
    scanFrom keys' before text =
      (scanFrom keys before text).map (List.map (Token.renumber f)) := by
  induction text using (measure List.length).wf.induction generalizing before with
  | _ text ih =>
    cases text with
    | nil => rw [scanFrom, scanFrom]; rfl
    | cons c cs =>
      by_cases hspace : isSpace c = true
      · rw [scanFrom, scanFrom, if_pos hspace, if_pos hspace]
        exact ih cs (Nat.lt_succ_self _) (some c)
      · rw [scanFrom, scanFrom, if_neg hspace, if_neg hspace,
          scanToken_renumber fun _ => hkeys before (c :: cs)]
        cases scanToken keys before c cs with
        | error e => rfl
        | ok answer =>
          obtain ⟨token, length⟩ := answer
          have hrest := ih (cs.drop length)
            (Nat.lt_succ_of_le (cs.drop_sublist length).length_le)
            (c :: cs.take length).getLast?
          show (scanFrom keys' (c :: cs.take length).getLast? (cs.drop length)).bind _ =
            ((scanFrom keys (c :: cs.take length).getLast? (cs.drop length)).bind _).map _
          rw [hrest]
          cases scanFrom keys (c :: cs.take length).getLast? (cs.drop length) <;> rfl

end Everywhere

end Keys

/-! ## Formulas -/

theorem compile_renumber {names names' : List String}
    (hkeys : ∀ before rest, (columnKeys names').find? (·.fits before rest) =
      ((columnKeys names).find? (·.fits before rest)).map (ColumnKey.renumber f))
    (source : String) :
    (compile source names').toOption = (compile source names).toOption.map (Expr.renumber f) := by
  rw [compile, compile]
  split
  · rfl
  · rw [scan, scan, scanFrom_renumber hkeys]
    cases scanFrom (columnKeys names) none source.toList with
    | error e => rfl
    | ok tokens => exact parse_renumber tokens

end Datasheet.Formula
