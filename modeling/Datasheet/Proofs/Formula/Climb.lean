import Datasheet.Proofs.Formula.Grammar

/-!
# Reading what the grammar derives

Some tokens are read as their expression, after which the reader goes on with the
operators that follow, if the operators that it may take and those that may follow are
bounded (`Reads`). For what the grammar derives (`Derives.reads`) the bounds have to agree
with the level, which `Level.floor` and `Level.ceiling` say in terms of precedence.

* `parse_of_derives`: a formula of the grammar is read as its expression if its
  nesting is at most `maxDepth`, and is too complex otherwise.

What the reader answers is compared without its proofs that it gets on
(`outcome`).
-/

namespace Datasheet.Formula

/-- The answer of a reader: an expression and the tokens after it. -/
def outcome {p : List Token → Prop} (r : Except FormulaError (Expr × { rest // p rest })) :
    Except FormulaError (Expr × List Token) :=
  r.map fun (e, rest) => (e, rest.val)

/-- The tokens do not go on with an operator of at least this precedence. -/
def Stops (least : Nat) (ts : List Token) : Prop :=
  ∀ op us, ts = .symbol (BinaryOp.symbol op) :: us → op.precedence < least

theorem Stops.mono {a b : Nat} {ts : List Token} (h : Stops a ts) (hab : a ≤ b) : Stops b ts :=
  fun op us e => Nat.lt_of_lt_of_le (h op us e) hab

theorem BinaryOp.symbol_injective : Function.Injective symbol := fun a b h => by
  have hb := ofSymbol?_symbol b
  rw [← h, ofSymbol?_symbol] at hb
  exact Option.some.inj hb

theorem BinaryOp.eq_symbol {s : Symbol} {op : BinaryOp} (h : ofSymbol? s = some op) :
    s = op.symbol := by
  cases s <;> cases h <;> rfl

theorem stops_symbol {least : Nat} {op : BinaryOp} {ts : List Token} (h : op.precedence < least) :
    Stops least (.symbol op.symbol :: ts) := by
  intro op' us e
  obtain ⟨hs, -⟩ := List.cons.inj e
  rwa [← BinaryOp.symbol_injective (Token.symbol.inj hs)]

theorem stops_closeParen (least : Nat) (ts : List Token) :
    Stops least (.symbol .closeParen :: ts) := by
  intro op us e
  have hs := congrArg BinaryOp.ofSymbol? (Token.symbol.inj (List.cons.inj e).1)
  rw [BinaryOp.ofSymbol?_symbol] at hs
  cases hs

theorem stops_nil (least : Nat) : Stops least [] := nofun

theorem exists_of_not_stops {least : Nat} {ts : List Token} (h : ¬ Stops least ts) :
    ∃ op us, ts = .symbol (BinaryOp.symbol op) :: us ∧ least ≤ op.precedence := by
  simpa [Stops, Classical.not_forall, Nat.not_lt] using h

/-! ## Steps of the reader -/

section Steps

variable {operand : Nat → (tokens : List Token) → Except FormulaError (Parsed tokens)}

theorem climb_stop {least : Nat} {left : Expr} {ts : List Token} (h : Stops least ts) :
    outcome (climb operand least left ts) = .ok (left, ts) := by
  rw [climb.eq_def]
  split
  · rename_i s us
    cases hs : BinaryOp.ofSymbol? s with
    | none => rfl
    | some op =>
      have hlt := h op us (by rw [← BinaryOp.eq_symbol hs])
      simp only [hlt, ↓reduceIte]
      rfl
  · rfl

/-- An operator that binds tightly enough is taken with its right operand. -/
theorem climb_op {least : Nat} {left : Expr} {op : BinaryOp} {ts : List Token}
    (h : least ≤ op.precedence) :
    outcome (climb operand least left (.symbol op.symbol :: ts)) =
      (outcome (operand op.rightPrecedence ts)).bind fun (right, us) =>
        outcome (climb operand least (.binary op left right) us) := by
  rw [climb, BinaryOp.ofSymbol?_symbol]
  simp only [Nat.not_lt.mpr h, ↓reduceIte]
  cases operand op.rightPrecedence ts with
  | error e => rfl
  | ok answer =>
    obtain ⟨right, us, hus⟩ := answer
    simp only [outcome, Except.map, Except.bind]
    cases climb operand least (.binary op left right) us <;> rfl

theorem parsePrimary_unary {op : UnaryOp} {ts : List Token} :
    outcome (parsePrimary operand (.symbol op.symbol :: ts)) =
      (outcome (operand op.precedence ts)).map fun (e, us) => (.unary op e, us) := by
  rw [parsePrimary, UnaryOp.ofSymbol?_eq_some.mpr rfl]
  dsimp only
  cases operand op.precedence ts <;> rfl

/-- What follows the content of parentheses has to close them. -/
def closing : Expr × List Token → Except FormulaError (Expr × List Token)
  | (_, []) => .error (.syntactic .unexpectedEnd)
  | (e, t :: ts) =>
    if t = .symbol .closeParen then .ok (e, ts) else .error (.syntactic (.notClosed t))

theorem parsePrimary_paren {ts : List Token} :
    outcome (parsePrimary operand (.symbol .openParen :: ts)) =
      (outcome (operand 0 ts)).bind closing := by
  show outcome (parseAtom operand (.symbol .openParen :: ts)) = _
  rw [parseAtom]
  cases operand 0 ts with
  | error e => rfl
  | ok answer =>
    obtain ⟨e, us, hus⟩ := answer
    cases us with
    | nil => rfl
    | cons t us =>
      by_cases ht : t = .symbol .closeParen <;>
        simp [outcome, closing, Except.map, Except.bind, ht]

end Steps

theorem parseAt_zero {least : Nat} {ts : List Token} :
    outcome (parseAt 0 least ts) = .error .tooComplex := rfl

theorem parseAt_succ {levels least : Nat} {ts : List Token} :
    outcome (parseAt (levels + 1) least ts) =
      (outcome (parsePrimary (parseAt levels) ts)).bind fun (left, us) =>
        outcome (climb (parseAt levels) least left us) := by
  rw [parseAt]
  cases parsePrimary (parseAt levels) ts with
  | error e => rfl
  | ok answer =>
    obtain ⟨left, us, hus⟩ := answer
    simp only [outcome, Except.map, Except.bind]
    cases climb (parseAt levels) least left us <;> rfl

/-! ## Reading a part -/

/-- Where operators of precedence `floor` may be taken, and before no operator of precedence
`ceiling`, the tokens are read as the expression, and then the operators that follow, unless
there are fewer levels left than the tokens need. -/
def Reads (floor ceiling : Nat) (ts : List Token) (e : Expr) (n : Nat) : Prop :=
  ∀ (levels least : Nat) (rest : List Token), least ≤ floor → Stops ceiling rest →
    outcome (parseAt (levels + 1) least (ts ++ rest)) =
      if n ≤ levels + 1 then outcome (climb (parseAt levels) least e rest)
      else .error .tooComplex

namespace Reads

variable {floor ceiling : Nat} {ts us : List Token} {e l r : Expr} {m n : Nat}

theorem mono {floor' ceiling' : Nat} (h : Reads floor ceiling ts e n)
    (hfloor : floor' ≤ floor) (hceiling : ceiling' ≤ ceiling) :
    Reads floor' ceiling' ts e n :=
  fun levels least rest hleast hrest =>
    h levels least rest (Nat.le_trans hleast hfloor) (hrest.mono hceiling)

/-- An operand is read alone if no operator follows that it might take. -/
theorem operand {rest : List Token} {levels least : Nat} (h : Reads floor ceiling ts e n)
    (hn : 1 ≤ n) (hleast : least ≤ floor) (hrest : Stops ceiling rest)
    (hstop : Stops least rest) :
    outcome (parseAt levels least (ts ++ rest)) =
      if n ≤ levels then .ok (e, rest) else .error .tooComplex := by
  cases levels with
  | zero => rw [parseAt_zero, if_neg (by omega)]
  | succ levels => rw [h levels least rest hleast hrest, climb_stop hstop]

/-- A left operand, an operator and its right operand. -/
theorem binary {op : BinaryOp} {ceiling' : Nat} (hl : Reads floor ceiling' ts l m)
    (hr : Reads op.rightPrecedence ceiling us r n) (hn : 1 ≤ n)
    (hop : floor ≤ op.precedence) (hleft : op.precedence < ceiling')
    (hceiling : ceiling ≤ op.rightPrecedence) :
    Reads floor ceiling (ts ++ .symbol op.symbol :: us) (.binary op l r)
      (max m (n + 1)) := by
  intro levels least rest hleast hrest
  have hoperand : outcome (parseAt levels op.rightPrecedence (us ++ rest)) =
      if n ≤ levels then .ok (r, rest) else .error .tooComplex :=
    hr.operand hn (Nat.le_refl _) hrest (hrest.mono hceiling)
  rw [List.append_assoc, List.cons_append, hl levels least _ hleast (stops_symbol hleft),
    climb_op (Nat.le_trans hleast hop), hoperand]
  by_cases hm : m ≤ levels + 1
  · by_cases hn' : n ≤ levels
    · rw [if_pos hm, if_pos hn', if_pos (by omega)]
      rfl
    · rw [if_pos hm, if_neg hn', if_neg (by omega)]
      rfl
  · rw [if_neg hm, if_neg (by omega)]

/-- A prefix operator and its operand, wherever they stand. -/
theorem unary {op : UnaryOp} (h : Reads op.precedence ceiling ts e n) (hn : 1 ≤ n)
    (hceiling : ceiling ≤ op.precedence) (floor : Nat) :
    Reads floor ceiling (.symbol op.symbol :: ts) (.unary op e) (n + 1) := by
  intro levels least rest _ hrest
  have hoperand : outcome (parseAt levels op.precedence (ts ++ rest)) =
      if n ≤ levels then .ok (e, rest) else .error .tooComplex :=
    h.operand hn (Nat.le_refl _) hrest (hrest.mono hceiling)
  rw [List.cons_append, parseAt_succ, parsePrimary_unary, hoperand]
  by_cases hn' : n ≤ levels
  · rw [if_pos hn', if_pos (by omega)]
    rfl
  · rw [if_neg hn', if_neg (by omega)]
    rfl

theorem paren (h : Reads 0 ceiling ts e n) (hn : 1 ≤ n) (floor' ceiling' : Nat) :
    Reads floor' ceiling' (.symbol .openParen :: (ts ++ [.symbol .closeParen])) e
      (n + 1) := by
  intro levels least rest _ _
  have hoperand : outcome (parseAt levels 0 (ts ++ .symbol .closeParen :: rest)) =
      if n ≤ levels then .ok (e, .symbol .closeParen :: rest) else .error .tooComplex :=
    h.operand hn (Nat.le_refl _) (stops_closeParen _ _) (stops_closeParen _ _)
  rw [List.cons_append, List.append_assoc, List.singleton_append, parseAt_succ,
    parsePrimary_paren, hoperand]
  by_cases hn' : n ≤ levels
  · rw [if_pos hn', if_pos (by omega)]
    rfl
  · rw [if_neg hn', if_neg (by omega)]
    rfl

theorem atom {t : Token} (h : ∀ operand ts, outcome (parsePrimary operand (t :: ts)) = .ok (e, ts))
    (floor ceiling : Nat) : Reads floor ceiling [t] e 1 := by
  intro levels least rest _ _
  rw [List.singleton_append, parseAt_succ, h, if_pos (by omega)]
  rfl

end Reads

/-! ## Levels and precedence -/

/-- Under this least precedence, or a smaller one, a text of the level is read
to its end. -/
def Level.floor : Level → Nat
  | or => 1
  | and => 2
  | not | comparison => 4
  | sum => 5
  | product => 6
  | sign | power | atom => 8

/-- After a text of the level, an operator of this precedence or a greater one
would be read as a part of it. -/
def Level.ceiling : Level → Nat
  | or => 2
  | and | not => 3
  | comparison => 5
  | sum => 6
  | product | sign | power => 7
  | atom => 9

theorem Level.floor_le_next {level tighter : Level} (h : level.next? = some tighter) :
    level.floor ≤ tighter.floor := by
  cases level <;> cases h <;> decide

theorem Level.ceiling_le_next {level tighter : Level} (h : level.next? = some tighter) :
    level.ceiling ≤ tighter.ceiling := by
  cases level <;> cases h <;> decide

theorem BinaryOp.floor_le_precedence (op : BinaryOp) : op.level.floor ≤ op.precedence := by
  cases op with
  | order op | arith op => cases op <;> decide
  | _ => decide

theorem BinaryOp.precedence_lt_ceiling {op : BinaryOp} (h : op ≠ .arith .power) :
    op.precedence < op.level.ceiling := by
  cases op with
  | order op | arith op => cases op <;> first | decide | exact absurd rfl h
  | _ => decide

theorem BinaryOp.ceiling_le_rightPrecedence (op : BinaryOp) :
    op.level.ceiling ≤ op.rightPrecedence := by
  cases op with
  | order op | arith op => cases op <;> decide
  | _ => decide

theorem BinaryOp.rightPrecedence_le_floor {op : BinaryOp} {tighter : Level}
    (hnext : op.level.next? = some tighter) :
    op.rightPrecedence ≤ tighter.floor := by
  cases op with
  | order op | arith op => cases op <;> cases hnext <;> decide
  | _ => cases hnext; decide

theorem UnaryOp.precedence_le_floor (op : UnaryOp) : op.precedence ≤ op.level.floor := by
  cases op <;> decide

theorem UnaryOp.ceiling_le_precedence (op : UnaryOp) : op.level.ceiling ≤ op.precedence := by
  cases op <;> decide

/-! ## Reading a level -/

theorem Derives.one_le {level : Level} {ts : List Token} {e : Expr} {n : Nat}
    (h : Derives level ts e n) : 1 ≤ n := by
  induction h <;> omega

/-- By induction on the derivation: what the tokens of a level are read as. -/
theorem Derives.reads {level : Level} {ts : List Token} {e : Expr} {n : Nat}
    (h : Derives level ts e n) : Reads level.floor level.ceiling ts e n := by
  induction h with
  | single hnext _ ih =>
    exact ih.mono (Level.floor_le_next hnext) (Level.ceiling_le_next hnext)
  | @chain op tighter ts us l r m n hop hnext _ hr ihl ihr =>
    have hright := ihr.mono (BinaryOp.rightPrecedence_le_floor hnext)
      (Level.ceiling_le_next hnext)
    exact ihl.binary hright hr.one_le op.floor_le_precedence
      (op.precedence_lt_ceiling hop) op.ceiling_le_rightPrecedence
  | @signed op ts e n h ih =>
    have hoperand := ih.mono op.precedence_le_floor (Nat.le_refl _)
    exact hoperand.unary h.one_le op.ceiling_le_precedence _
  | @power ts us l r m n _ hr ihl ihr =>
    have hright : Reads (BinaryOp.arith .power).rightPrecedence Level.power.ceiling us r n := ihr
    exact ihl.binary hright hr.one_le (by decide) (by decide) (by decide)
  | number x => exact Reads.atom (fun _ _ => rfl) _ _
  | text s => exact Reads.atom (fun _ _ => rfl) _ _
  | bool b => exact Reads.atom (fun _ _ => rfl) _ _
  | column index => exact Reads.atom (fun _ _ => rfl) _ _
  | paren h ih => exact (ih.mono (Nat.zero_le _) (Nat.le_refl _)).paren h.one_le _ _

/-! ## Whole formulas -/

theorem Derives.ne_nil {level : Level} {ts : List Token} {e : Expr} {n : Nat}
    (h : Derives level ts e n) : ts ≠ [] := by
  induction h with
  | single _ _ ih => exact ih
  | _ => simp

/-- Nothing may follow a whole formula. -/
def ending : Expr × List Token → Except FormulaError Expr
  | (e, []) => .ok e
  | (_, t :: _) => .error (.syntactic (.unexpectedToken t))

theorem parse_eq_bind {ts : List Token} (h : ts ≠ []) :
    parse ts = (outcome (parseAt maxDepth 0 ts)).bind ending := by
  rw [parse, if_neg h]
  cases parseAt maxDepth 0 ts with
  | error e => rfl
  | ok answer =>
    obtain ⟨e, us, hus⟩ := answer
    cases us <;> rfl

theorem Derives.parseAt_eq {ts : List Token} {e : Expr} {n levels : Nat}
    (h : Derives .or ts e n) :
    outcome (parseAt levels 0 ts) = if n ≤ levels then .ok (e, []) else .error .tooComplex := by
  have hread : outcome (parseAt levels 0 (ts ++ [])) =
      if n ≤ levels then .ok (e, []) else .error .tooComplex :=
    h.reads.operand h.one_le (Nat.zero_le _) (stops_nil _) (stops_nil _)
  rwa [List.append_nil] at hread

/-- A formula of the grammar is read as the expression that its tokens form,
unless it is nested deeper than `maxDepth`. -/
theorem parse_of_derives {ts : List Token} {e : Expr} {n : Nat} (h : Derives .or ts e n) :
    (n ≤ maxDepth → parse ts = .ok e) ∧ (maxDepth < n → parse ts = .error .tooComplex) := by
  rw [parse_eq_bind h.ne_nil, h.parseAt_eq]
  refine ⟨fun hn => ?_, fun hn => ?_⟩
  · rw [if_pos hn]
    rfl
  · rw [if_neg (Nat.not_le.mpr hn)]
    rfl

/-- Tokens in so many pairs of parentheses. -/
def wrap : Nat → List Token → List Token
  | 0, ts => ts
  | k + 1, ts => .symbol .openParen :: (wrap k ts ++ [.symbol .closeParen])

theorem Derives.wrap {ts : List Token} {e : Expr} {n : Nat} (h : Derives .or ts e n) (k : Nat) :
    Derives .or (wrap k ts) e (n + k) := by
  induction k with
  | zero => exact h
  | succ k ih => exact (Derives.paren ih).ofAtom .or

/-- `-#0 ** #1 <= #0`, in which the sign and the comparison are applied last. -/
def signedPower : List Token :=
  [.symbol .minus, .column 0, .symbol .power, .column 1, .symbol .lessEqual, .column 0]

def signedPowerExpr : Expr :=
  .binary (.order .lessEqual) (.unary .minus (.binary (.arith .power) (.column 0) (.column 1)))
    (.column 0)

/-- A formula of nesting 3 may stand in 61 pairs of parentheses and in no more. -/
theorem parse_wrap_signedPower :
    (∀ k, Derives .or (wrap k signedPower) signedPowerExpr (3 + k)) ∧
      parse (wrap 61 signedPower) = .ok signedPowerExpr ∧
      parse (wrap 62 signedPower) = .error .tooComplex := by
  have power : Derives .power [.column 0, .symbol .power, .column 1]
      (.binary (.arith .power) (.column 0) (.column 1)) 2 :=
    .power (.column 0) ((Derives.column 1).ofAtom .sign)
  have sign : Derives .sign [.symbol .minus, .column 0, .symbol .power, .column 1]
      (.unary .minus (.binary (.arith .power) (.column 0) (.column 1))) 3 :=
    .signed .minus (.single rfl power)
  have comparison : Derives .comparison signedPower signedPowerExpr 3 :=
    .chain (.order .lessEqual) (by decide) rfl
      (.single rfl (.single rfl (.single rfl sign))) ((Derives.column 0).ofAtom .sum)
  have formula : Derives .or signedPower signedPowerExpr 3 :=
    .single rfl (.single rfl (.single rfl comparison))
  exact ⟨formula.wrap, (parse_of_derives (formula.wrap 61)).1 (by decide),
    (parse_of_derives (formula.wrap 62)).2 (by decide)⟩

end Datasheet.Formula
