import Datasheet.Formula.Parse

/-!
# The grammar of formulas

Which tokens form which expression, apart from how they are read. The grammar is
in levels (`Level`), loosest first; below, `X*` is any number of repetitions,
which group to the left.

```
or         = and ("or" and)*
and        = not ("and" not)*
not        = "not" not | comparison
comparison = sum (("==" | "!=" | "<" | "<=" | ">" | ">=") sum)*
sum        = product (("+" | "-") product)*
product    = sign (("*" | "/" | "//" | "%") sign)*
sign       = ("+" | "-") sign | power
power      = atom ["**" sign]
atom       = literal | column | "(" or ")"
```

`Derives level ts e n` says that the tokens `ts` form the expression `e` at a
level, and that `n` is their nesting: one, and one more for what stands in
parentheses, for the operand of a prefix operator and for the right operand of
an infix operator. Left operands are not nested deeper than their operator.
-/

namespace Datasheet.Formula

/-- The levels of the grammar. -/
inductive Level where
  | or
  | and
  | not
  | comparison
  | sum
  | product
  | sign
  | power
  | atom
deriving DecidableEq

/-- The level that each level is made of. -/
def Level.next? : Level → Option Level
  | or => some and
  | and => some not
  | not => some comparison
  | comparison => some sum
  | sum => some product
  | product => some sign
  | sign => some power
  | power => some atom
  | atom => none

/-- The level that an infix operator belongs to. -/
def BinaryOp.level : BinaryOp → Level
  | or => .or
  | and => .and
  | equal | notEqual | order _ => .comparison
  | arith .add | arith .subtract => .sum
  | arith .multiply | arith .divide | arith .floorDivide | arith .modulo => .product
  | arith .power => .power

/-- The level that a prefix operator belongs to. -/
def UnaryOp.level : UnaryOp → Level
  | not => .not
  | plus | minus => .sign

/-- The tokens form the expression at the level, with this nesting. -/
inductive Derives : Level → List Token → Expr → Nat → Prop where
  /-- One part of a level is of the level. -/
  | single {level tighter : Level} {ts : List Token} {e : Expr} {n : Nat}
      (hnext : level.next? = some tighter) (h : Derives tighter ts e n) : Derives level ts e n
  /-- One more repetition; the parts before it are the left operand. -/
  | chain (op : BinaryOp) {tighter : Level} {ts us : List Token} {l r : Expr} {m n : Nat}
      (hop : op ≠ .arith .power) (hnext : op.level.next? = some tighter)
      (hl : Derives op.level ts l m) (hr : Derives tighter us r n) :
      Derives op.level (ts ++ .symbol op.symbol :: us) (.binary op l r) (max m (n + 1))
  | signed (op : UnaryOp) {ts : List Token} {e : Expr} {n : Nat} (h : Derives op.level ts e n) :
      Derives op.level (.symbol op.symbol :: ts) (.unary op e) (n + 1)
  | power {ts us : List Token} {l r : Expr} {m n : Nat}
      (hl : Derives .atom ts l m) (hr : Derives .sign us r n) :
      Derives .power (ts ++ .symbol .power :: us) (.binary (.arith .power) l r) (max m (n + 1))
  | number (x : Binary64) : Derives .atom [.number x] (.literal (.number x)) 1
  | text (s : String) : Derives .atom [.text s] (.literal (.text s)) 1
  | bool (b : Bool) : Derives .atom [.bool b] (.literal (.bool b)) 1
  | column (index : Nat) : Derives .atom [.column index] (.column index) 1
  | paren {ts : List Token} {e : Expr} {n : Nat} (h : Derives .or ts e n) :
      Derives .atom (.symbol .openParen :: (ts ++ [.symbol .closeParen])) e (n + 1)

/-- An atom is of every level. -/
theorem Derives.ofAtom {ts : List Token} {e : Expr} {n : Nat} (h : Derives .atom ts e n)
    (level : Level) : Derives level ts e n := by
  have power : Derives .power ts e n := .single rfl h
  have sign : Derives .sign ts e n := .single rfl power
  have product : Derives .product ts e n := .single rfl sign
  have sum : Derives .sum ts e n := .single rfl product
  have comparison : Derives .comparison ts e n := .single rfl sum
  have not : Derives .not ts e n := .single rfl comparison
  have and : Derives .and ts e n := .single rfl not
  cases level with
  | or => exact .single rfl and
  | _ => assumption

/-- What is of some level is a formula. -/
theorem Derives.whole {level : Level} {ts : List Token} {e : Expr} {n : Nat}
    (h : Derives level ts e n) : Derives .or ts e n := by
  have and (h : Derives .and ts e n) : Derives .or ts e n := .single rfl h
  have not (h : Derives .not ts e n) : Derives .or ts e n := and (.single rfl h)
  have comparison (h : Derives .comparison ts e n) : Derives .or ts e n := not (.single rfl h)
  have sum (h : Derives .sum ts e n) : Derives .or ts e n := comparison (.single rfl h)
  have product (h : Derives .product ts e n) : Derives .or ts e n := sum (.single rfl h)
  have sign (h : Derives .sign ts e n) : Derives .or ts e n := product (.single rfl h)
  cases level with
  | or => exact h
  | and => exact and h
  | not => exact not h
  | comparison => exact comparison h
  | sum => exact sum h
  | product => exact product h
  | sign => exact sign h
  | power => exact sign (.single rfl h)
  | atom => exact h.ofAtom .or

/-- Any infix operator may stand between atoms. -/
theorem Derives.binary (op : BinaryOp) {ts us : List Token} {l r : Expr} {m n : Nat}
    (hl : Derives .atom ts l m) (hr : Derives .atom us r n) :
    Derives .or (ts ++ .symbol op.symbol :: us) (.binary op l r) (max m (n + 1)) := by
  by_cases hop : op = .arith .power
  · subst hop
    exact (Derives.power hl (hr.ofAtom .sign)).whole
  · have hnext : ∃ tighter, op.level.next? = some tighter := by
      cases op with
      | order op | arith op => cases op <;> exact ⟨_, rfl⟩
      | _ => exact ⟨_, rfl⟩
    obtain ⟨tighter, hnext⟩ := hnext
    exact (Derives.chain op hop hnext (hl.ofAtom op.level) (hr.ofAtom tighter)).whole

end Datasheet.Formula
