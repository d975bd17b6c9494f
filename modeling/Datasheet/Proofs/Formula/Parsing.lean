import Datasheet.Proofs.Formula.Climb
import Datasheet.Proofs.Results

/-!
# Which tokens are read

The reader takes more than the levels of the grammar derive: a prefix operator may follow
any infix operator, and takes what binds as tightly as itself even so. `Forms` describes all
that it takes. How far a part goes depends on the operators that may be taken in it and on
the one that follows it, and so `Forms` has two bounds of precedence.

* `Forms.reads`: such tokens are read as their expression;
* `takes_of_parseAt`: nothing else is read;
* `parse_eq_ok_iff`: so they are what has an expression, if their nesting is at most
  `maxDepth`;
* `parse_tokens`: the expression accounts for every token, but for parentheses, which are
  balanced and of which more may be added up to that nesting.
-/

namespace Datasheet.Formula

/-- Where operators of precedence `floor` may be taken, and before no operator of precedence
`ceiling`, the tokens form the expression, with this nesting. What stands in parentheses and
what starts with a prefix operator may stand anywhere: only the operand of the operator is
bounded by what follows. -/
inductive Forms : Nat → Nat → List Token → Expr → Nat → Prop where
  | number {floor ceiling : Nat} (x : Binary64) :
      Forms floor ceiling [.number x] (.literal (.number x)) 1
  | text {floor ceiling : Nat} (s : String) : Forms floor ceiling [.text s] (.literal (.text s)) 1
  | bool {floor ceiling : Nat} (b : Bool) : Forms floor ceiling [.bool b] (.literal (.bool b)) 1
  | column {floor ceiling : Nat} (index : Nat) :
      Forms floor ceiling [.column index] (.column index) 1
  | paren {floor ceiling : Nat} {ts : List Token} {e : Expr} {n : Nat} (h : Forms 0 0 ts e n) :
      Forms floor ceiling (.symbol .openParen :: (ts ++ [.symbol .closeParen])) e (n + 1)
  | unary (op : UnaryOp) {floor ceiling : Nat} {ts : List Token} {e : Expr} {n : Nat}
      (hceiling : ceiling ≤ op.precedence) (h : Forms op.precedence ceiling ts e n) :
      Forms floor ceiling (.symbol op.symbol :: ts) (.unary op e) (n + 1)
  | binary (op : BinaryOp) {floor ceiling ceiling' : Nat} {ts us : List Token} {l r : Expr}
      {m n : Nat} (hfloor : floor ≤ op.precedence) (hleft : op.precedence < ceiling')
      (hceiling : ceiling ≤ op.rightPrecedence) (hl : Forms floor ceiling' ts l m)
      (hr : Forms op.rightPrecedence ceiling us r n) :
      Forms floor ceiling (ts ++ .symbol op.symbol :: us) (.binary op l r) (max m (n + 1))

/-! ## All of it is read -/

section Forms

variable {floor ceiling : Nat} {ts : List Token} {e : Expr} {n : Nat}

theorem Forms.one_le (h : Forms floor ceiling ts e n) : 1 ≤ n := by
  induction h <;> omega

theorem Forms.ne_nil (h : Forms floor ceiling ts e n) : ts ≠ [] := by
  cases h <;> simp

theorem Forms.reads (h : Forms floor ceiling ts e n) : Reads floor ceiling ts e n := by
  induction h with
  | number x => exact Reads.atom (fun _ _ => rfl) _ _
  | text s => exact Reads.atom (fun _ _ => rfl) _ _
  | bool b => exact Reads.atom (fun _ _ => rfl) _ _
  | column index => exact Reads.atom (fun _ _ => rfl) _ _
  | paren h ih => exact ih.paren h.one_le _ _
  | unary op hceiling h ih => exact ih.unary h.one_le hceiling _
  | binary op hfloor hleft hceiling _ hr ihl ihr =>
    exact ihl.binary ihr hr.one_le hfloor hleft hceiling

theorem Forms.parse_eq (h : Forms 0 0 ts e n) :
    parse ts = if n ≤ maxDepth then .ok e else .error .tooComplex := by
  have hread : outcome (parseAt maxDepth 0 (ts ++ [])) =
      if n ≤ maxDepth then .ok (e, []) else .error .tooComplex :=
    h.reads.operand h.one_le (Nat.le_refl 0) (stops_nil 0) (stops_nil 0)
  rw [List.append_nil] at hread
  rw [parse_eq_bind h.ne_nil, hread]
  split <;> rfl

end Forms

/-! ## Nothing else is read -/

/-- The least bound below which no operator goes on with the tokens. -/
def reach : List Token → Nat
  | .symbol s :: _ => (BinaryOp.ofSymbol? s).elim 0 (·.precedence + 1)
  | _ => 0

theorem reach_symbol (op : BinaryOp) (ts : List Token) :
    reach (.symbol op.symbol :: ts) = op.precedence + 1 := by
  rw [reach, BinaryOp.ofSymbol?_symbol]
  rfl

theorem Stops.reach_le {least : Nat} {ts : List Token} (h : Stops least ts) :
    reach ts ≤ least := by
  rw [reach.eq_def]
  split
  · rename_i s us
    cases hs : BinaryOp.ofSymbol? s with
    | none => exact Nat.zero_le _
    | some op => exact h op us (by rw [BinaryOp.eq_symbol hs])
  · exact Nat.zero_le _

/-- The answer is an expression that the tokens before the rest form on so many levels, and
no operator that may be taken heads the rest. -/
def Takes (levels least : Nat) (ts : List Token) (answer : Expr × List Token) : Prop :=
  ∃ us n, ts = us ++ answer.2 ∧ n ≤ levels ∧ Forms least (reach answer.2) us answer.1 n ∧
    Stops least answer.2

/-- The answer is an expression that the tokens before the rest form on so many levels,
whatever operators may be taken. -/
def Starts (levels : Nat) (ts : List Token) (answer : Expr × List Token) : Prop :=
  ∃ us n, ts = us ++ answer.2 ∧ n ≤ levels ∧ ∀ floor, Forms floor (reach answer.2) us answer.1 n

theorem starts_atom {levels : Nat} {t : Token} {e : Expr} {ts : List Token}
    (h : ∀ floor ceiling, Forms floor ceiling [t] e 1) : Starts (levels + 1) (t :: ts) (e, ts) :=
  ⟨[t], 1, rfl, Nat.le_add_left _ _, fun floor => h floor _⟩

section Operand

variable {levels : Nat}
  {operand : Nat → (tokens : List Token) → Except FormulaError (Parsed tokens)}
  (hoperand : ∀ least ts answer, outcome (operand least ts) = .ok answer →
    Takes levels least ts answer)

include hoperand

/-- By induction on how many tokens there are, of which each operator takes some. What has
been read so far ends where the next operator stands, and this carries over to the operator
after its right operand. -/
theorem takes_of_climb {least m : Nat} {left : Expr} {ls ts : List Token}
    {answer : Expr × List Token} (hleft : Forms least (reach ts) ls left m) (hm : m ≤ levels + 1)
    (h : outcome (climb operand least left ts) = .ok answer) :
    Takes (levels + 1) least (ls ++ ts) answer := by
  induction ts using (measure List.length).wf.induction generalizing left ls m with
  | _ ts ih =>
    by_cases hstop : Stops least ts
    · rw [climb_stop hstop] at h
      cases h
      exact ⟨ls, m, rfl, hm, hleft, hstop⟩
    · obtain ⟨op, us, rfl, hle⟩ := exists_of_not_stops hstop
      rw [climb_op hle] at h
      obtain ⟨⟨right, vs⟩, hright, hclimb⟩ := exists_of_bind_eq_ok h
      obtain ⟨rs, n, rfl, hn, hforms, hstops⟩ := hoperand _ _ _ hright
      rw [reach_symbol] at hleft
      have hbinary : Forms least (reach vs) (ls ++ .symbol op.symbol :: rs)
          (.binary op left right) (max m (n + 1)) :=
        .binary op hle (Nat.lt_succ_self _) hstops.reach_le hleft hforms
      have hshorter : vs.length < (.symbol op.symbol :: (rs ++ vs)).length := by
        rw [List.length_cons, List.length_append]
        omega
      have htakes := ih vs hshorter hbinary (by omega) hclimb
      rwa [List.append_assoc, List.cons_append] at htakes

theorem starts_of_unary (op : UnaryOp) {ts : List Token} {answer : Expr × List Token}
    (h : outcome (parsePrimary operand (.symbol op.symbol :: ts)) = .ok answer) :
    Starts (levels + 1) (.symbol op.symbol :: ts) answer := by
  rw [parsePrimary_unary] at h
  obtain ⟨⟨e, rest⟩, hcontent, rfl⟩ := exists_of_map_eq_ok h
  obtain ⟨us, n, rfl, hn, hforms, hstops⟩ := hoperand _ _ _ hcontent
  exact ⟨.symbol op.symbol :: us, n + 1, rfl, Nat.succ_le_succ hn,
    fun _ => .unary op hstops.reach_le hforms⟩

theorem starts_of_paren {ts : List Token} {answer : Expr × List Token}
    (h : outcome (parsePrimary operand (.symbol .openParen :: ts)) = .ok answer) :
    Starts (levels + 1) (.symbol .openParen :: ts) answer := by
  rw [parsePrimary_paren] at h
  obtain ⟨⟨e, rest⟩, hcontent, hclosing⟩ := exists_of_bind_eq_ok h
  obtain ⟨us, n, rfl, hn, hforms, -⟩ := hoperand _ _ _ hcontent
  cases rest with
  | nil => cases hclosing
  | cons t rest =>
    dsimp only at hforms
    rw [closing] at hclosing
    split at hclosing
    · obtain rfl : t = .symbol .closeParen := ‹_›
      cases hclosing
      refine ⟨.symbol .openParen :: (us ++ [.symbol .closeParen]), n + 1, ?_,
        Nat.succ_le_succ hn, fun _ => .paren hforms⟩
      simp
    · cases hclosing

theorem starts_of_parsePrimary {ts : List Token} {answer : Expr × List Token}
    (h : outcome (parsePrimary operand ts) = .ok answer) : Starts (levels + 1) ts answer := by
  cases ts with
  | nil => cases h
  | cons t ts =>
    cases t with
    | symbol s =>
      cases s with
      | openParen => exact starts_of_paren hoperand h
      | plus => exact starts_of_unary hoperand .plus h
      | minus => exact starts_of_unary hoperand .minus h
      | not => exact starts_of_unary hoperand .not h
      | _ => cases h
    | number x =>
      cases h
      exact starts_atom fun _ _ => .number x
    | text s =>
      cases h
      exact starts_atom fun _ _ => .text s
    | bool b =>
      cases h
      exact starts_atom fun _ _ => .bool b
    | column index =>
      cases h
      exact starts_atom fun _ _ => .column index

end Operand

/-- By induction on the levels left, since each operand is read on the next one. -/
theorem takes_of_parseAt {levels least : Nat} {ts : List Token} {answer : Expr × List Token}
    (h : outcome (parseAt levels least ts) = .ok answer) : Takes levels least ts answer := by
  induction levels generalizing least ts answer with
  | zero => cases h
  | succ levels ih =>
    have hoperand : ∀ least ts answer, outcome (parseAt levels least ts) = .ok answer →
        Takes levels least ts answer := fun _ _ _ => ih
    rw [parseAt_succ] at h
    obtain ⟨⟨left, rest⟩, hprimary, hclimb⟩ := exists_of_bind_eq_ok h
    obtain ⟨us, n, rfl, hn, hforms⟩ := starts_of_parsePrimary hoperand hprimary
    exact takes_of_climb hoperand (hforms least) hn hclimb

/-- What has an expression: the reader takes the tokens to their end. -/
theorem parse_eq_ok_iff {ts : List Token} {e : Expr} :
    parse ts = .ok e ↔ ∃ n ≤ maxDepth, Forms 0 0 ts e n := by
  constructor
  · intro h
    have hne : ts ≠ [] := by
      rintro rfl
      cases h
    rw [parse_eq_bind hne] at h
    obtain ⟨⟨e', rest⟩, hread, hending⟩ := exists_of_bind_eq_ok h
    obtain ⟨us, n, hts, hn, hforms, -⟩ := takes_of_parseAt hread
    cases rest with
    | nil =>
      cases hending
      rw [List.append_nil] at hts
      exact ⟨n, hn, hts ▸ hforms⟩
    | cons t rest => cases hending
  · rintro ⟨n, hn, hforms⟩
    rw [hforms.parse_eq, if_pos hn]

/-! ## Tokens and parentheses -/

def Value.token : Value → Token
  | number x => .number x
  | text s => .text s
  | bool b => .bool b

/-- The tokens of an expression in their order, without parentheses. -/
def Expr.tokens : Expr → List Token
  | literal v => [v.token]
  | column index => [.column index]
  | unary op operand => .symbol op.symbol :: operand.tokens
  | binary op left right => left.tokens ++ .symbol op.symbol :: right.tokens

def Token.isParen (t : Token) : Bool := t = .symbol .openParen || t = .symbol .closeParen

/-- Whether each parenthesis closes one that was opened before it and all are closed in the
end, if so many are open at the start. -/
def closes : Nat → List Token → Bool
  | depth, [] => depth = 0
  | depth, t :: ts =>
    if t = .symbol .openParen then closes (depth + 1) ts
    else if t = .symbol .closeParen then depth ≠ 0 && closes (depth - 1) ts
    else closes depth ts

def balanced (ts : List Token) : Bool := closes 0 ts

theorem UnaryOp.isParen_symbol (op : UnaryOp) : (Token.symbol op.symbol).isParen = false := by
  cases op <;> rfl

theorem BinaryOp.isParen_symbol (op : BinaryOp) : (Token.symbol op.symbol).isParen = false := by
  cases op with
  | order op | arith op => cases op <;> rfl
  | _ => rfl

theorem closes_cons {t : Token} (ht : t.isParen = false) (depth : Nat) (ts : List Token) :
    closes depth (t :: ts) = closes depth ts := by
  rw [Token.isParen, Bool.or_eq_false_iff, decide_eq_false_iff_not, decide_eq_false_iff_not] at ht
  rw [closes, if_neg ht.1, if_neg ht.2]

section Forms

variable {floor ceiling : Nat} {ts : List Token} {e : Expr} {n : Nat}

theorem Forms.tokens_eq (h : Forms floor ceiling ts e n) :
    e.tokens = ts.filter (!·.isParen) := by
  induction h with
  | paren _ ih =>
    rw [ih]
    simp [Token.isParen]
  | unary op _ _ ih => simp [Expr.tokens, ih, op.isParen_symbol]
  | binary op _ _ _ _ _ ihl ihr => simp [Expr.tokens, ihl, ihr, op.isParen_symbol]
  | _ => rfl

/-- The parentheses close among themselves, whatever is open before and follows after. -/
theorem Forms.closes_append (h : Forms floor ceiling ts e n) (depth : Nat) (rest : List Token) :
    closes depth (ts ++ rest) = closes depth rest := by
  induction h generalizing depth rest with
  | paren _ ih =>
    rw [List.cons_append, List.append_assoc, closes, if_pos rfl, ih]
    rfl
  | unary op _ _ ih => rw [List.cons_append, closes_cons op.isParen_symbol, ih]
  | binary op _ _ _ _ _ ihl ihr =>
    rw [List.append_assoc, ihl, List.cons_append, closes_cons op.isParen_symbol, ihr]
  | _ => rfl

theorem Forms.wrap (h : Forms 0 0 ts e n) (k : Nat) : Forms 0 0 (wrap k ts) e (n + k) := by
  induction k with
  | zero => exact h
  | succ k ih => exact .paren ih

end Forms

/-- The expression that is read has the tokens but for the parentheses, in their order. The
parentheses are balanced, and up to a number less than 64 more pairs of them change nothing,
above which there are too many. -/
theorem parse_tokens {ts : List Token} {e : Expr} (h : parse ts = .ok e) :
    e.tokens = ts.filter (!·.isParen) ∧ balanced ts ∧
      ∃ most ≤ 63, ∀ k, parse (wrap k ts) = if k ≤ most then .ok e else .error .tooComplex := by
  obtain ⟨n, hn, hforms⟩ := parse_eq_ok_iff.mp h
  have hbalanced := hforms.closes_append 0 []
  rw [List.append_nil] at hbalanced
  have hdepth : maxDepth = 64 := rfl
  have hpos := hforms.one_le
  refine ⟨hforms.tokens_eq, hbalanced, maxDepth - n, by omega, fun k => ?_⟩
  have hiff : n + k ≤ maxDepth ↔ k ≤ maxDepth - n := by omega
  rw [(hforms.wrap k).parse_eq]
  simp only [hiff]

/-- `#0 * not (#1) == #2`, in which `not` takes the comparison although it follows an operator
that binds tighter. -/
def looseNot : List Token :=
  [.column 0, .symbol .times, .symbol .not, .symbol .openParen, .column 1, .symbol .closeParen,
    .symbol .equal, .column 2]

def looseNotExpr : Expr :=
  .binary (.arith .multiply) (.column 0) (.unary .not (.binary .equal (.column 1) (.column 2)))

theorem parse_looseNot :
    parse looseNot = .ok looseNotExpr ∧
      looseNotExpr.tokens = looseNot.filter (!·.isParen) ∧ balanced looseNot ∧
      ∃ most ≤ 63, ∀ k, parse (wrap k looseNot) =
        if k ≤ most then .ok looseNotExpr else .error .tooComplex := by
  have comparison : Forms UnaryOp.not.precedence 0
      ([.symbol .openParen, .column 1, .symbol .closeParen] ++ [.symbol .equal, .column 2])
      (.binary .equal (.column 1) (.column 2)) 2 :=
    .binary .equal (by decide) (Nat.lt_succ_self _) (by decide) (.paren (.column 1)) (.column 2)
  have formula : Forms 0 0 looseNot looseNotExpr 4 :=
    .binary (.arith .multiply) (Nat.zero_le _) (Nat.lt_succ_self _) (by decide) (.column 0)
      (.unary .not (Nat.zero_le _) comparison)
  have hparse := parse_eq_ok_iff.mpr ⟨4, by decide, formula⟩
  exact ⟨hparse, parse_tokens hparse⟩

end Datasheet.Formula
