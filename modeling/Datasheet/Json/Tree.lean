import Datasheet.Json.Basic

/-!
# JSON text as written

A tree keeps what a text spells before any of it is given a value: numerals,
strings with their escapes, and all fields of an object, repeated ones too. So a
text can be well-formed although some part of it has no value, and a reader of
records may ignore such a part.

A text is split into tokens (`Json.tokens?`), and the tokens form a tree
(`Tree.parse?`), which may be nested without limit.
-/

namespace Datasheet

/-- A character of a string, or one code unit given by number. -/
inductive StringPart where
  | char (c : Char)
  | unit (n : Nat)
deriving DecidableEq

inductive JsonToken where
  | null
  | bool (b : Bool)
  /-- A numeral with its sign, and whether it has neither point nor exponent. -/
  | number (negative whole : Bool) (n : Numeral)
  | string (parts : List StringPart)
  | openList
  | closeList
  | openObject
  | closeObject
  | comma
  | colon
deriving DecidableEq

namespace JsonToken

/-- The value of a hexadecimal digit. -/
def hexValue? (c : Char) : Option Nat :=
  if c.isDigit then some (c.toNat - '0'.toNat)
  else if 'a' ≤ c && c ≤ 'f' then some (c.toNat - 'a'.toNat + 10)
  else if 'A' ≤ c && c ≤ 'F' then some (c.toNat - 'A'.toNat + 10)
  else none

/-- What a letter after a backslash stands for. -/
def escape? (c : Char) : Option Char :=
  match c with
  | '"' | '\\' | '/' => some c
  | 'b' => some '\x08'
  | 'f' => some '\x0c'
  | 'n' => some '\n'
  | 'r' => some '\r'
  | 't' => some '\t'
  | _ => none

/-- A string after its opening quote: its parts, and how many characters it takes
with its closing quote. Control characters have to be escaped. -/
def stringBody? : List Char → Option (List StringPart × Nat)
  | '"' :: _ => some ([], 1)
  | '\\' :: 'u' :: a :: b :: c :: d :: cs => do
    let n := (← hexValue? a) * 4096 + (← hexValue? b) * 256 + (← hexValue? c) * 16 + (← hexValue? d)
    let (parts, length) ← stringBody? cs
    return (.unit n :: parts, length + 6)
  | '\\' :: c :: cs => do
    let e ← escape? c
    let (parts, length) ← stringBody? cs
    return (.char e :: parts, length + 2)
  | c :: cs =>
    if c = '\\' || c.toNat < 0x20 then none
    else (stringBody? cs).map fun (parts, length) => (.char c :: parts, length + 1)
  | [] => none

/-- Whether the digits before a point are at least one and start with no needless
zero. -/
def plainWhole : List Char → Bool
  | [] => false
  | ['0'] => true
  | c :: _ => c ≠ '0'

/-- A number without its sign: the token, and how many characters it takes. A
point stands between digits. -/
def number? (negative : Bool) (text : List Char) : Option (JsonToken × Nat) :=
  let (numeral, rest) := Numeral.read text
  let after := text.drop numeral.whole.length
  if plainWhole numeral.whole && (after.head? ≠ some '.' || !numeral.fraction.isEmpty) then
    some (.number negative (rest = after) numeral, text.length - rest.length)
  else none

/-- The token at `c :: cs`, and how many characters of `cs` belong to it. -/
def scan? (c : Char) (cs : List Char) : Option (JsonToken × Nat) :=
  let keyword (tail : String) (t : JsonToken) : Option (JsonToken × Nat) :=
    if tail.toList.isPrefixOf cs then some (t, tail.length) else none
  match c with
  | '[' => some (.openList, 0)
  | ']' => some (.closeList, 0)
  | '{' => some (.openObject, 0)
  | '}' => some (.closeObject, 0)
  | ',' => some (.comma, 0)
  | ':' => some (.colon, 0)
  | '"' => (stringBody? cs).map fun (parts, length) => (.string parts, length)
  | 'n' => keyword "ull" .null
  | 't' => keyword "rue" (.bool true)
  | 'f' => keyword "alse" (.bool false)
  | '-' => number? true cs
  | c => if c.isDigit then (number? false (c :: cs)).map fun (t, n) => (t, n - 1) else none

end JsonToken

namespace Json

/-- The white space of JSON text. -/
def isGap (c : Char) : Bool := c = ' ' || c = '\t' || c = '\n' || c = '\r'

/-- The tokens of a text. -/
def tokens? : List Char → Option (List JsonToken)
  | [] => some []
  | c :: cs =>
    if isGap c then tokens? cs
    else do
      let (token, length) ← JsonToken.scan? c cs
      let tokens ← tokens? (cs.drop length)
      return token :: tokens
termination_by text => text.length
decreasing_by all_goals simp only [List.length_cons, List.length_drop]; omega

end Json

/-- A JSON text as written. -/
inductive Tree where
  | null
  | bool (b : Bool)
  | number (negative whole : Bool) (n : Numeral)
  | string (parts : List StringPart)
  | list (items : List Tree)
  | object (fields : List (List StringPart × Tree))

namespace Tree

/-- Something read from the start of some tokens, and the tokens after it. -/
abbrev Read (α : Type) (tokens : List JsonToken) :=
  α × { rest : List JsonToken // rest.length < tokens.length }

mutual

/-- One value. -/
def value? (tokens : List JsonToken) : Option (Read Tree tokens) :=
  match tokens with
  | .null :: rest => some (.null, ⟨rest, by simp⟩)
  | .bool b :: rest => some (.bool b, ⟨rest, by simp⟩)
  | .number negative whole n :: rest => some (.number negative whole n, ⟨rest, by simp⟩)
  | .string parts :: rest => some (.string parts, ⟨rest, by simp⟩)
  | .openList :: .closeList :: rest => some (.list [], ⟨rest, by simp only [List.length_cons]; omega⟩)
  | .openList :: rest =>
    match items? rest with
    | some (items, ⟨rest', shorter⟩) =>
      some (.list items, ⟨rest', by simp only [List.length_cons]; omega⟩)
    | none => none
  | .openObject :: .closeObject :: rest => some (.object [], ⟨rest, by simp only [List.length_cons]; omega⟩)
  | .openObject :: rest =>
    match fields? rest with
    | some (fields, ⟨rest', shorter⟩) =>
      some (.object fields, ⟨rest', by simp only [List.length_cons]; omega⟩)
    | none => none
  | _ => none
termination_by (tokens.length, 0)

/-- The items of a list after its opening bracket, with the closing one. -/
def items? (tokens : List JsonToken) : Option (Read (List Tree) tokens) :=
  match value? tokens with
  | some (item, ⟨.closeList :: rest, shorter⟩) =>
    some ([item], ⟨rest, by simp only [List.length_cons] at shorter; omega⟩)
  | some (item, ⟨.comma :: rest, shorter⟩) =>
    match items? rest with
    | some (items, ⟨rest', shorter'⟩) =>
      some (item :: items, ⟨rest', by simp only [List.length_cons] at shorter; omega⟩)
    | none => none
  | _ => none
termination_by (tokens.length, 1)
decreasing_by
  · decreasing_tactic
  · simp only [List.length_cons] at shorter
    simp only [Prod.lex_def]
    omega

/-- The fields of an object after its opening brace, with the closing one. -/
def fields? (tokens : List JsonToken) : Option (Read (List (List StringPart × Tree)) tokens) :=
  match tokens with
  | .string key :: .colon :: afterColon =>
    match value? afterColon with
    | some (value, ⟨.closeObject :: rest, shorter⟩) =>
      some ([(key, value)], ⟨rest, by simp only [List.length_cons] at *; omega⟩)
    | some (value, ⟨.comma :: rest, shorter⟩) =>
      match fields? rest with
      | some (fields, ⟨rest', shorter'⟩) =>
        some ((key, value) :: fields, ⟨rest', by simp only [List.length_cons] at *; omega⟩)
      | none => none
    | _ => none
  | _ => none
termination_by (tokens.length, 1)
decreasing_by
  · simp only [List.length_cons, Prod.lex_def]
    omega
  · simp only [List.length_cons] at *
    simp only [Prod.lex_def]
    omega

end

/-- The tree of a whole text. -/
def parse? (text : List Char) : Option Tree := do
  match ← value? (← Json.tokens? text) with
  | (tree, ⟨[], _⟩) => some tree
  | _ => none

end Tree

end Datasheet
