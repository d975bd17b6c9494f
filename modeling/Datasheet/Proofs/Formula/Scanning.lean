import Datasheet.Proofs.Binary64.Numeral
import Datasheet.Proofs.Formula.Names

/-!
# Scanning one token

What each kind of token is spelled like, and that it is scanned as that token in
front of any rest that does not continue it. Every lemma goes backwards: from the
tokens of the rest to those of the token with the rest.

* `scanFrom_text`: a text literal, with backslashes before quotes and backslashes;
* `scanFrom_numeral`: a numeral before a space or a parenthesis;
* `scanFrom_column`: the name of a column, after no character of a word;
* `scanFrom_operator`, `scanFrom_openParen`, `scanFrom_closeParen`: the symbols;
* `scanFrom_bool`: the truth values.
-/

namespace Datasheet.Formula

/-- Where a word or a numeral ends: at the end of the text, at a space or before a
closing parenthesis. -/
def EndsToken (rest : List Char) : Prop := ∀ c ∈ rest.head?, c = ' ' ∨ c = ')'

theorem EndsToken.not_isNameChar {rest : List Char} (h : EndsToken rest) :
    ∀ c ∈ rest.head?, isNameChar c = false := by
  intro c hc
  rcases h c hc with rfl | rfl <;> decide +kernel

theorem EndsToken.endsNumeral {rest : List Char} (h : EndsToken rest) :
    ∀ c ∈ rest.head?, endsNumeral c := by
  intro c hc
  rcases h c hc with rfl | rfl <;> rfl

theorem endsToken_nil : EndsToken [] := by
  simp [EndsToken]

theorem endsToken_space (rest : List Char) : EndsToken (' ' :: rest) := by
  simp [EndsToken]

theorem endsToken_closeParen (rest : List Char) : EndsToken (')' :: rest) := by
  simp [EndsToken]

theorem scanFrom_space {keys : List ColumnKey} {before : Option Char} {cs : List Char} :
    scanFrom keys before (' ' :: cs) = scanFrom keys (some ' ') cs := by
  rw [scanFrom, if_pos (by decide)]

/-- The token that takes just these characters, before the tokens of the rest. -/
theorem scanFrom_token {keys : List ColumnKey} {before : Option Char} {c : Char}
    {cs rest : List Char} {t : Token} {ts : List Token} (hspace : isSpace c = false)
    (htoken : scanToken keys before c (cs ++ rest) = .ok (t, cs.length))
    (hrest : scanFrom keys (c :: cs).getLast? rest = .ok ts) :
    scanFrom keys before (c :: cs ++ rest) = .ok (t :: ts) := by
  rw [List.cons_append, scanFrom, hspace, htoken]
  show (do
    let tokens ← scanFrom keys (c :: (cs ++ rest).take cs.length).getLast?
      ((cs ++ rest).drop cs.length)
    return t :: tokens) = _
  rw [List.take_left, List.drop_left, hrest]
  rfl

/-! ## How tokens start -/

theorem not_quote_of_isNameChar {c : Char} (h : isNameChar c) :
    (c = '"' || c = '\'') = false := by
  rw [Bool.or_eq_false_iff, decide_eq_false_iff_not, decide_eq_false_iff_not]
  constructor
  · rintro rfl
    exact absurd h (by decide +kernel)
  · rintro rfl
    exact absurd h (by decide +kernel)

theorem not_startsNumber {c : Char} (hdigit : c.isDigit = false) (hpoint : c ≠ '.')
    (cs : List Char) : startsNumber c cs = false := by
  rw [startsNumber, hdigit, decide_eq_false hpoint]
  rfl

theorem mem_keywords_of_wordToken {word : String} {t : Token} (h : wordToken word = .ok t) :
    word ∈ keywords := by
  refine Decidable.byContradiction fun hword => ?_
  simp only [keywords, List.mem_cons, List.not_mem_nil, or_false, not_or] at hword
  simp [wordToken, hword] at h

/-- The characters that symbols start with. -/
def symbolChars : List Char :=
  ['+', '-', '*', '/', '%', '=', '!', '<', '>', '&', '|', '(', ')']

theorem mem_symbolChars {c : Char} {next : Option Char} {r : Symbol × Nat}
    (h : scanSymbol? c next = some r) : c ∈ symbolChars := by
  rw [scanSymbol?.eq_def] at h
  split at h <;> first | decide | cases h

theorem class_of_mem_symbolChars {c : Char} (h : c ∈ symbolChars) : isSpace c = false ∧
    startsWord c = false ∧ (c = '"' || c = '\'') = false ∧ c.isDigit = false ∧ c ≠ '.' := by
  have hall : symbolChars.all (fun c => !(isSpace c || startsWord c || (c = '"' || c = '\'') ||
      c.isDigit || c = '.')) = true := by decide +kernel
  have hc := List.all_eq_true.mp hall c h
  simp only [Bool.not_eq_true', Bool.or_eq_false_iff, decide_eq_false_iff_not] at hc
  obtain ⟨⟨⟨⟨hspace, hword⟩, hquote⟩, hdigit⟩, hpoint⟩ := hc
  exact ⟨hspace, hword, by simp [hquote], hdigit, hpoint⟩

/-! ## Text literals -/

/-- A character within quotes. -/
def escaped (quote c : Char) : List Char := if c = quote ∨ c = '\\' then ['\\', c] else [c]

theorem scanText_quote (quote : Char) (rest : List Char) :
    scanText quote (quote :: rest) = .ok ([], 1) := by
  cases rest with
  | nil => rw [scanText, if_pos rfl]
  | cons d ds => rw [scanText, if_pos rfl]

theorem scanText_escaped {quote c : Char} (hquote : quote ≠ '\\') (hc : c = quote ∨ c = '\\')
    (hplain : unescape quote = quote) {cs : List Char} :
    scanText quote ('\\' :: c :: cs) =
      (scanText quote cs).map fun (text, length) => (c :: text, length + 2) := by
  have hunescape : unescape c = c := by
    rcases hc with rfl | rfl
    · exact hplain
    · rfl
  rw [scanText, if_neg hquote.symm, if_pos rfl, hunescape]

theorem scanText_other {quote c : Char} (hc : ¬ (c = quote ∨ c = '\\')) {cs : List Char}
    (hcs : cs ≠ []) :
    scanText quote (c :: cs) =
      (scanText quote cs).map fun (text, length) => (c :: text, length + 1) := by
  obtain ⟨d, ds, rfl⟩ := List.exists_cons_of_ne_nil hcs
  rw [not_or] at hc
  rw [scanText, if_neg hc.1, if_neg hc.2]

/-- By induction on the text: it is read back up to the closing quote. -/
theorem scanText_flatMap {quote : Char} (hquote : quote ≠ '\\') (hplain : unescape quote = quote)
    (cs rest : List Char) :
    scanText quote (cs.flatMap (escaped quote) ++ quote :: rest) =
      .ok (cs, (cs.flatMap (escaped quote)).length + 1) := by
  induction cs with
  | nil => exact scanText_quote quote rest
  | cons c cs ih =>
    rw [List.flatMap_cons, escaped]
    split
    · rename_i hc
      rw [List.append_assoc, List.cons_append, List.singleton_append,
        scanText_escaped hquote hc hplain, ih]
      simp [Except.map]
    · rename_i hc
      rw [List.append_assoc, List.singleton_append, scanText_other hc (by simp), ih]
      simp [Except.map]

/-- The quotes of text literals. -/
inductive Quote where
  | single
  | double
deriving DecidableEq

def Quote.char : Quote → Char
  | single => '\''
  | double => '"'

theorem Quote.class_char (q : Quote) : isSpace q.char = false ∧
    (q.char = '"' || q.char = '\'') = true ∧ q.char ≠ '\\' ∧ unescape q.char = q.char := by
  cases q <;> decide

/-- A text as a literal. -/
def Quote.literal (q : Quote) (s : String) : List Char :=
  q.char :: (s.toList.flatMap (escaped q.char) ++ [q.char])

/-- A text that ends where the rest begins. -/
theorem scanFrom_quote {keys : List ColumnKey} {before : Option Char} {q : Quote} {s : String}
    {cs rest : List Char} {ts : List Token}
    (htext : scanText q.char (cs ++ rest) = .ok (s.toList, cs.length))
    (hrest : scanFrom keys (q.char :: cs).getLast? rest = .ok ts) :
    scanFrom keys before (q.char :: cs ++ rest) = .ok (.text s :: ts) := by
  obtain ⟨hspace, hquote, -, -⟩ := q.class_char
  refine scanFrom_token hspace ?_ hrest
  rw [scanToken, if_pos hquote, htext]
  show Except.ok (Token.text (.ofList s.toList), cs.length) = _
  rw [String.ofList_toList]

theorem scanFrom_text {keys : List ColumnKey} {before : Option Char} (q : Quote) (s : String)
    {rest : List Char} {ts : List Token}
    (hrest : scanFrom keys (q.literal s).getLast? rest = .ok ts) :
    scanFrom keys before (q.literal s ++ rest) = .ok (.text s :: ts) := by
  obtain ⟨-, -, hne, hplain⟩ := q.class_char
  refine scanFrom_quote ?_ hrest
  rw [List.append_assoc, List.singleton_append, scanText_flatMap hne hplain, List.length_append]
  rfl

/-! ## Numerals -/

section Columns

variable {names : List String} (hplain : ∀ name ∈ names, PlainName name)
variable {before : Option Char} {rest : List Char} {ts : List Token}

include hplain

theorem scanFrom_numeral (n : NumeralText) (hends : EndsToken rest)
    (hrest : scanFrom (columnKeys names) n.text.getLast? rest = .ok ts) :
    scanFrom (columnKeys names) before (n.text ++ rest) = .ok (.number n.value :: ts) := by
  have hread := n.read_text hends.endsNumeral
  obtain ⟨c, cs, htext, hc⟩ := n.exists_cons_text
  have hname := isNameChar_of_isDigit hc
  have hstart : startsNumber c (cs ++ rest) = true := by
    rw [startsNumber, hc, Bool.true_or]
  rw [htext] at hread hrest ⊢
  refine scanFrom_token (not_isSpace_of_isNameChar hname) ?_ hrest
  rw [scanToken, not_quote_of_isNameChar hname,
    find?_columnKeys_of_not_startsWord hplain (not_startsWord_of_isDigit hc), hstart,
    ← List.cons_append, hread, n.value_eq]
  simp

/-! ## Words -/

theorem scanFrom_column (hnodup : names.Nodup) {i : Nat} {name : String}
    (hi : names[i]? = some name) (hbefore : ∀ c ∈ before, isNameChar c = false)
    (hends : EndsToken rest)
    (hrest : scanFrom (columnKeys names) name.toList.getLast? rest = .ok ts) :
    scanFrom (columnKeys names) before (name.toList ++ rest) = .ok (.column i :: ts) := by
  have hname := hplain _ (List.mem_of_getElem? hi)
  have hfind := find?_columnKeys_of_name hplain hnodup hi hbefore
    (takeWhile_stop hname.isNameChar_of_mem hends.not_isNameChar)
  obtain ⟨c, cs, htext, hc, -⟩ := hname.exists_cons
  have hc := isNameChar_of_startsWord hc
  rw [htext] at hrest hfind ⊢
  refine scanFrom_token (not_isSpace_of_isNameChar hc) ?_ hrest
  rw [scanToken, not_quote_of_isNameChar hc, ← List.cons_append, hfind]
  simp

theorem scanFrom_keyword {c : Char} {cs : List Char} {t : Token} (hc : startsWord c)
    (hin : (c :: cs).all isNameChar) (ht : wordToken (.ofList (c :: cs)) = .ok t)
    (hends : EndsToken rest)
    (hrest : scanFrom (columnKeys names) (c :: cs).getLast? rest = .ok ts) :
    scanFrom (columnKeys names) before (c :: cs ++ rest) = .ok (t :: ts) := by
  have hword := takeWhile_stop (List.all_eq_true.mp hin) hends.not_isNameChar
  have hfind : (columnKeys names).find? (·.fits before (c :: cs ++ rest)) = none := by
    refine find?_columnKeys_eq_none hplain fun hmem => ?_
    rw [hword] at hmem
    exact (hplain _ hmem).2.2 (mem_keywords_of_wordToken ht)
  have hdigit : c.isDigit = false := by
    refine Bool.eq_false_iff.mpr fun hd => ?_
    rw [not_startsWord_of_isDigit hd] at hc
    cases hc
  have hpoint : c ≠ '.' := by
    rintro rfl
    exact absurd hc (by decide +kernel)
  have hname := List.all_eq_true.mp hin c List.mem_cons_self
  refine scanFrom_token (not_isSpace_of_isNameChar hname) ?_ hrest
  rw [List.cons_append, List.takeWhile_cons_of_pos hname] at hword
  rw [scanToken, not_quote_of_isNameChar hname, ← List.cons_append, hfind,
    not_startsNumber hdigit hpoint, if_pos (show (isLetter c || c = '_') = true from hc),
    (List.cons.inj hword).2]
  show (wordToken (.ofList (c :: cs))).map (·, cs.length) = _
  rw [ht]
  rfl

/-- A truth value as a literal. -/
def truthWord (b : Bool) : String := if b then "True" else "False"

theorem scanFrom_bool (b : Bool) (hends : EndsToken rest)
    (hrest : scanFrom (columnKeys names) (truthWord b).toList.getLast? rest = .ok ts) :
    scanFrom (columnKeys names) before ((truthWord b).toList ++ rest) = .ok (.bool b :: ts) := by
  cases b
  · exact scanFrom_keyword hplain (by decide +kernel) (by decide +kernel) rfl hends hrest
  · exact scanFrom_keyword hplain (by decide +kernel) (by decide +kernel) rfl hends hrest

/-! ## Symbols -/

theorem scanFrom_symbol {c : Char} {cs : List Char} {s : Symbol}
    (hs : scanSymbol? c (cs ++ rest).head? = some (s, cs.length))
    (hrest : scanFrom (columnKeys names) (c :: cs).getLast? rest = .ok ts) :
    scanFrom (columnKeys names) before (c :: cs ++ rest) = .ok (.symbol s :: ts) := by
  obtain ⟨hspace, hword, hquote, hdigit, hpoint⟩ :=
    class_of_mem_symbolChars (mem_symbolChars hs)
  refine scanFrom_token hspace ?_ hrest
  rw [scanToken, hquote, find?_columnKeys_of_not_startsWord hplain hword,
    not_startsNumber hdigit hpoint, hs]
  show (if startsWord c then _ else _) = _
  rw [hword]
  rfl

theorem scanFrom_openParen (hrest : scanFrom (columnKeys names) (some '(') rest = .ok ts) :
    scanFrom (columnKeys names) before ('(' :: rest) = .ok (.symbol .openParen :: ts) := by
  show scanFrom (columnKeys names) before ('(' :: [] ++ rest) = _
  exact scanFrom_symbol hplain rfl hrest

theorem scanFrom_closeParen (hrest : scanFrom (columnKeys names) (some ')') rest = .ok ts) :
    scanFrom (columnKeys names) before (')' :: rest) = .ok (.symbol .closeParen :: ts) := by
  show scanFrom (columnKeys names) before (')' :: [] ++ rest) = _
  exact scanFrom_symbol hplain rfl hrest

/-- A symbol before a space. -/
theorem scanFrom_operator (s : Symbol)
    (hrest : scanFrom (columnKeys names) (some ' ') rest = .ok ts) :
    scanFrom (columnKeys names) before (s.text.toList ++ ' ' :: rest) = .ok (.symbol s :: ts) := by
  have hspace : ∀ last, scanFrom (columnKeys names) last (' ' :: rest) = .ok ts := fun last => by
    rw [scanFrom_space, hrest]
  cases s
  case and | or | not =>
    exact scanFrom_keyword hplain (by decide +kernel) (by decide +kernel) rfl
      (endsToken_space rest) (hspace _)
  all_goals exact scanFrom_symbol hplain rfl (hspace _)

end Columns

end Datasheet.Formula
