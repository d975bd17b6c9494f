import Datasheet.Formula.Compile
import Datasheet.Proofs.Formula.Climb
import Datasheet.Proofs.Formula.Scanning

/-!
# Formulas as they are written

An expression with the spelling of its literals (`Phrase`) is rendered with every
application of an operator in parentheses. The text is scanned as the tokens of the
phrase (`Phrase.scanFrom_render`), and these form its expression within a nesting of
twice its height (`Phrase.derives`): the two levels that an operator adds are its
parentheses and its operand.

* `compile_render`: a formula of plain names and of height 31 or less compiles to
  the expression that was rendered, if it is not too long;
* `compile_bare`: so does one without the outermost parentheses.
-/

namespace Datasheet.Formula

/-- An expression over columns of these names, with the spelling of its literals. -/
inductive Phrase (names : List String) where
  | number (n : NumeralText)
  | text (quote : Quote) (s : String)
  | bool (b : Bool)
  | column (i : Fin names.length)
  | unary (op : UnaryOp) (operand : Phrase names)
  | binary (op : BinaryOp) (left right : Phrase names)
deriving DecidableEq

theorem not_isNameChar_space : ∀ c ∈ some ' ', isNameChar c = false := by
  rintro c ⟨⟩
  decide +kernel

theorem not_isNameChar_openParen : ∀ c ∈ some '(', isNameChar c = false := by
  rintro c ⟨⟩
  decide +kernel

namespace Phrase

variable {names : List String}

def expr : Phrase names → Expr
  | number n => .literal (.number n.value)
  | text _ s => .literal (.text s)
  | bool b => .literal (.bool b)
  | column i => .column i
  | unary op operand => .unary op operand.expr
  | binary op left right => .binary op left.expr right.expr

/-- The greatest number of operators above a literal or a column. -/
def height : Phrase names → Nat
  | number _ | text _ _ | bool _ | column _ => 0
  | unary _ operand => operand.height + 1
  | binary _ left right => max left.height right.height + 1

def render : Phrase names → List Char
  | number n => n.text
  | text quote s => quote.literal s
  | bool b => (truthWord b).toList
  | column i => names[i].toList
  | unary op operand => '(' :: (op.symbol.text.toList ++ ' ' :: operand.render) ++ [')']
  | binary op left right =>
    '(' :: (left.render ++ ' ' :: (op.symbol.text.toList ++ ' ' :: right.render)) ++ [')']

/-- An application without the parentheses around it. -/
def bare (op : BinaryOp) (left right : Phrase names) : List Char :=
  left.render ++ ' ' :: (op.symbol.text.toList ++ ' ' :: right.render)

def tokens : Phrase names → List Token
  | number n => [.number n.value]
  | text _ s => [.text s]
  | bool b => [.bool b]
  | column i => [.column i]
  | unary op operand =>
    .symbol .openParen :: (.symbol op.symbol :: operand.tokens ++ [.symbol .closeParen])
  | binary op left right =>
    .symbol .openParen ::
      (left.tokens ++ .symbol op.symbol :: right.tokens ++ [.symbol .closeParen])

/-! ## Scanning -/

/-- By induction on the phrase: its text is scanned as its tokens. -/
theorem scanFrom_render (hplain : ∀ name ∈ names, PlainName name) (hnodup : names.Nodup)
    (p : Phrase names) {before : Option Char} {rest : List Char} {ts : List Token}
    (hbefore : ∀ c ∈ before, isNameChar c = false) (hends : EndsToken rest)
    (hrest : scanFrom (columnKeys names) p.render.getLast? rest = .ok ts) :
    scanFrom (columnKeys names) before (p.render ++ rest) = .ok (p.tokens ++ ts) := by
  induction p generalizing before rest ts with
  | number n => exact scanFrom_numeral hplain n hends hrest
  | text quote s => exact scanFrom_text quote s hrest
  | bool b => exact scanFrom_bool hplain b hends hrest
  | column i =>
    exact scanFrom_column hplain hnodup (List.getElem?_eq_getElem i.isLt) hbefore hends hrest
  | unary op operand ih =>
    rw [render, List.getLast?_concat] at hrest
    have hoperand : scanFrom (columnKeys names) (some ' ') (operand.render ++ ')' :: rest) =
        .ok (operand.tokens ++ .symbol .closeParen :: ts) :=
      ih not_isNameChar_space (endsToken_closeParen rest) (scanFrom_closeParen hplain hrest)
    simpa [render, tokens] using
      scanFrom_openParen hplain (scanFrom_operator hplain op.symbol hoperand)
  | binary op left right ihl ihr =>
    rw [render, List.getLast?_concat] at hrest
    have hright : scanFrom (columnKeys names) (some ' ') (right.render ++ ')' :: rest) =
        .ok (right.tokens ++ .symbol .closeParen :: ts) :=
      ihr not_isNameChar_space (endsToken_closeParen rest) (scanFrom_closeParen hplain hrest)
    have hleft := ihl not_isNameChar_openParen (endsToken_space _)
      (scanFrom_space.trans (scanFrom_operator hplain op.symbol hright))
    simpa [render, tokens] using scanFrom_openParen hplain hleft

/-! ## Nesting -/

/-- By induction on the phrase: an operator adds its parentheses and its operand. -/
theorem derives (p : Phrase names) :
    ∃ n, n ≤ 2 * p.height + 1 ∧ Derives .atom p.tokens p.expr n := by
  induction p with
  | number n => exact ⟨1, by omega, .number n.value⟩
  | text quote s => exact ⟨1, by omega, .text s⟩
  | bool b => exact ⟨1, by omega, .bool b⟩
  | column i => exact ⟨1, by omega, .column i⟩
  | unary op operand ih =>
    obtain ⟨n, hn, h⟩ := ih
    refine ⟨n + 1 + 1, ?_, .paren (Derives.signed op (h.ofAtom op.level)).whole⟩
    rw [height]
    omega
  | binary op left right ihl ihr =>
    obtain ⟨m, hm, hl⟩ := ihl
    obtain ⟨n, hn, hr⟩ := ihr
    refine ⟨max m (n + 1) + 1, ?_, .paren (Derives.binary op hl hr)⟩
    rw [height]
    omega

theorem scan_render (hplain : ∀ name ∈ names, PlainName name) (hnodup : names.Nodup)
    (p : Phrase names) : scan names p.render = .ok p.tokens := by
  have hnil : scanFrom (columnKeys names) p.render.getLast? [] = .ok [] := by rw [scanFrom]
  have hscan : scanFrom (columnKeys names) none (p.render ++ []) = .ok (p.tokens ++ []) :=
    p.scanFrom_render hplain hnodup (by simp) endsToken_nil hnil
  rwa [List.append_nil, List.append_nil] at hscan

theorem scan_bare (hplain : ∀ name ∈ names, PlainName name) (hnodup : names.Nodup)
    (op : BinaryOp) (left right : Phrase names) :
    scan names (bare op left right) = .ok (left.tokens ++ .symbol op.symbol :: right.tokens) := by
  have hnil : scanFrom (columnKeys names) right.render.getLast? [] = .ok [] := by rw [scanFrom]
  have hright : scanFrom (columnKeys names) (some ' ') (right.render ++ []) =
      .ok (right.tokens ++ []) :=
    right.scanFrom_render hplain hnodup not_isNameChar_space endsToken_nil hnil
  rw [List.append_nil, List.append_nil] at hright
  exact left.scanFrom_render hplain hnodup (by simp) (endsToken_space _)
    (scanFrom_space.trans (scanFrom_operator hplain op.symbol hright))

end Phrase

/-- A text whose tokens form an expression compiles to it. -/
theorem compile_of_derives {names : List String} {cs : List Char} {ts : List Token} {e : Expr}
    {n : Nat} (hlength : byteLength cs ≤ maxLength) (hscan : scan names cs = .ok ts)
    (h : Derives .or ts e n) (hdepth : n ≤ maxDepth) : compile (.ofList cs) names = .ok e := by
  rw [compile, String.toList_ofList, if_neg (Nat.not_lt.mpr hlength), hscan]
  show parse ts = _
  rw [parse_eq_bind h.ne_nil, h.parseAt_eq, if_pos hdepth]
  rfl

/-- Formulas over plain names compile to what they were rendered from. -/
theorem compile_render {names : List String} (hplain : ∀ name ∈ names, PlainName name)
    (hnodup : names.Nodup) (p : Phrase names) (hheight : p.height ≤ 31)
    (hlength : byteLength p.render ≤ maxLength) :
    compile (.ofList p.render) names = .ok p.expr := by
  obtain ⟨n, hn, hderives⟩ := p.derives
  have hdepth : n ≤ maxDepth := by
    rw [maxDepth]
    omega
  exact compile_of_derives hlength (p.scan_render hplain hnodup) hderives.whole hdepth

/-- An expression over names that begin alike and like a keyword, with a text that
needs escapes and a numeral with all its parts. -/
def tangled : Phrase ["a", "an", "and_"] :=
  .binary .notEqual (.binary (.arith .power) (.column 1) (.unary .minus (.column 0)))
    (.binary .or (.text .single "it's \\n") (.unary .not
      (.number ⟨⟨['1'], by decide⟩, some ⟨['5', '0'], by decide⟩,
        some ⟨false, some true, ⟨['3'], by decide⟩⟩⟩)))

theorem compile_tangled :
    (∀ name ∈ ["a", "an", "and_"], PlainName name) ∧ ["a", "an", "and_"].Nodup ∧
      tangled.height ≤ 31 ∧ byteLength tangled.render ≤ maxLength ∧
      compile "((an ** (- a)) != ('it\\'s \\\\n' or (not 1.50e-3)))" ["a", "an", "and_"] =
        .ok tangled.expr := by
  have hplain : ∀ name ∈ ["a", "an", "and_"], PlainName name := by decide +kernel
  have hlength : byteLength tangled.render ≤ maxLength := by decide +kernel
  refine ⟨hplain, by decide, by decide, hlength, ?_⟩
  exact compile_render hplain (by decide) tangled (by decide) hlength

/-- The outermost operator of a formula needs no parentheses. -/
theorem compile_bare {names : List String} (hplain : ∀ name ∈ names, PlainName name)
    (hnodup : names.Nodup) (op : BinaryOp) {left right : Phrase names} (hleft : left.height ≤ 31)
    (hright : right.height ≤ 31) (hlength : byteLength (Phrase.bare op left right) ≤ maxLength) :
    compile (.ofList (Phrase.bare op left right)) names = .ok (.binary op left.expr right.expr) := by
  obtain ⟨m, hm, hl⟩ := left.derives
  obtain ⟨n, hn, hr⟩ := right.derives
  have hdepth : max m (n + 1) ≤ maxDepth := by
    rw [maxDepth]
    omega
  exact compile_of_derives hlength (Phrase.scan_bare hplain hnodup op left right)
    (Derives.binary op hl hr) hdepth

end Datasheet.Formula
