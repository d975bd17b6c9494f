import Datasheet.Formula.Error
import Datasheet.Text.Alphabet

/-!
# From text to tokens

Outside text literals a column's name is looked for before anything else, the
longest name first (`columnKeys`), and only where it does not run into
neighbouring characters of words (`ColumnKey.fits`). So a name may look like a
number, a keyword or an operator.

`scanToken` answers how many characters after its first one a token takes.
-/

namespace Datasheet.Formula

/-- The size of a text in UTF-8. -/
def byteLength : List Char → Nat
  | [] => 0
  | c :: cs => c.utf8Size + byteLength cs

/-- A spelling of a column's name and the column's position. -/
structure ColumnKey where
  text : List Char
  index : Nat
deriving DecidableEq

/-- The names without the white space around them, where that is no name itself
and no column before has claimed it. -/
def trimmedKeys (names claimed : List (List Char)) : List ColumnKey → List ColumnKey
  | [] => []
  | key :: keys =>
    let short := trim key.text
    if short = [] || short = key.text || short ∈ names || short ∈ claimed then
      trimmedKeys names claimed keys
    else ⟨short, key.index⟩ :: trimmedKeys names (short :: claimed) keys

/-- All spellings of the columns, the longest first. -/
def columnKeys (names : List String) : List ColumnKey :=
  let all := names.zipIdx.map fun (name, index) => ⟨name.toList, index⟩
  let keys := all.filter (·.text ≠ []) ++ trimmedKeys (all.map (·.text)) [] all
  keys.mergeSort fun a b => byteLength b.text ≤ byteLength a.text

/-- Characters of names and keywords. -/
def isNameChar (c : Char) : Bool := isLetterOrNumber c || c = '_'

/-- Whether a key stands at the start of a text and no character of a word
continues it on either side. -/
def ColumnKey.fits (before : Option Char) (rest : List Char) (key : ColumnKey) : Bool :=
  let meets (inside outside : Option Char) := inside.any isNameChar && outside.any isNameChar
  key.text.isPrefixOf rest
    && !meets key.text.head? before
    && !meets key.text.getLast? (rest.drop key.text.length).head?

/-- What a character after a backslash stands for. -/
def unescape (c : Char) : Char :=
  if c = 'n' then '\n' else if c = 't' then '\t' else if c = 'r' then '\r' else c

/-- A text literal after its opening quote: the text, and how many characters it
takes with its closing quote. -/
def scanText (quote : Char) : List Char → Except FormulaError (List Char × Nat)
  | [] => .error (.syntactic .unterminatedText)
  | [c] => if c = quote then .ok ([], 1) else .error (.syntactic .unterminatedText)
  | c :: d :: cs =>
    if c = quote then .ok ([], 1)
    else if c = '\\' then
      (scanText quote cs).map fun (text, length) => (unescape d :: text, length + 2)
    else (scanText quote (d :: cs)).map fun (text, length) => (c :: text, length + 1)

/-- The symbol at a character, and whether it takes the next one too. -/
def scanSymbol? (c : Char) (next : Option Char) : Option (Symbol × Nat) :=
  match c, next with
  | '*', some '*' => some (.power, 1)
  | '/', some '/' => some (.floorDivide, 1)
  | '=', some '=' => some (.equal, 1)
  | '!', some '=' => some (.notEqual, 1)
  | '<', some '=' => some (.lessEqual, 1)
  | '>', some '=' => some (.greaterEqual, 1)
  | '&', some '&' => some (.and, 1)
  | '|', some '|' => some (.or, 1)
  | '+', _ => some (.plus, 0)
  | '-', _ => some (.minus, 0)
  | '*', _ => some (.times, 0)
  | '/', _ => some (.divide, 0)
  | '%', _ => some (.modulo, 0)
  | '<', _ => some (.less, 0)
  | '>', _ => some (.greater, 0)
  | '=', _ => some (.equal, 0)
  | '!', _ => some (.not, 0)
  | '(', _ => some (.openParen, 0)
  | ')', _ => some (.closeParen, 0)
  | _, _ => none

/-- The token that a word is; a word that is no keyword is a name of nothing. -/
def wordToken (word : String) : Except FormulaError Token :=
  if word = "and" then .ok (.symbol .and)
  else if word = "or" then .ok (.symbol .or)
  else if word = "not" then .ok (.symbol .not)
  else if word = "True" || word = "true" then .ok (.bool true)
  else if word = "False" || word = "false" then .ok (.bool false)
  else .error (.unknownName word)

/-- Whether a number starts here: a digit, or a point before a digit. -/
def startsNumber (c : Char) (cs : List Char) : Bool :=
  c.isDigit || c = '.' && cs.head?.any Char.isDigit

/-- The token at `c :: cs`, and how many characters of `cs` belong to it. -/
def scanToken (keys : List ColumnKey) (before : Option Char) (c : Char) (cs : List Char) :
    Except FormulaError (Token × Nat) :=
  if c = '"' || c = '\'' then
    (scanText c cs).map fun (text, length) => (.text (.ofList text), length)
  else
    match keys.find? (·.fits before (c :: cs)) with
    | some key => .ok (.column key.index, key.text.length - 1)
    | none =>
      if startsNumber c cs then
        let (numeral, rest) := Numeral.read (c :: cs)
        .ok (.number (numeral.value false), cs.length - rest.length)
      else if isLetter c || c = '_' then
        let tail := cs.takeWhile isNameChar
        (wordToken (.ofList (c :: tail))).map (·, tail.length)
      else
        match scanSymbol? c cs.head? with
        | some (symbol, length) => .ok (.symbol symbol, length)
        | none => .error (.syntactic (.unexpectedChar c))

/-- The tokens of a text, given the character before it. -/
def scanFrom (keys : List ColumnKey) (before : Option Char) :
    List Char → Except FormulaError (List Token)
  | [] => .ok []
  | c :: cs =>
    if isSpace c then scanFrom keys (some c) cs
    else do
      let (token, length) ← scanToken keys before c cs
      let tokens ← scanFrom keys (c :: cs.take length).getLast? (cs.drop length)
      return token :: tokens
termination_by text => text.length
decreasing_by all_goals simp only [List.length_cons, List.length_drop]; omega

/-- The tokens of a formula over columns of these names. -/
def scan (names : List String) (source : List Char) : Except FormulaError (List Token) :=
  scanFrom (columnKeys names) none source

end Datasheet.Formula
