/-!
# Media types

A media type is a type and a subtype, such as `text/csv`, with parameters after
semicolons. Letter case counts only in the values of parameters. A media type is
JSON (`MediaType.isJson`) if its subtype or the suffix of its subtype says so.
-/

namespace Datasheet

structure MediaType where
  type : List Char
  subtype : List Char
  /-- The parameters as written, with their first semicolon. -/
  parameters : List Char
deriving DecidableEq

namespace MediaType

/-- The characters of names. -/
def isToken (c : Char) : Bool := c.isAlphanum || c ∈ "!#$%&'*+-.^_`|~".toList

/-- The characters between quotes. -/
def isQuotable (c : Char) : Bool := ' ' ≤ c && c ≤ '~'

/-- A value in quotes, as written, with what follows up to the next parameter. The
first character between the quotes may be a quote. -/
def quotedValue? : List Char → Option (List Char)
  | '"' :: c :: cs =>
    let value := cs.takeWhile (· ≠ '"')
    let gap := (cs.drop (value.length + 1)).takeWhile (· = ' ')
    let written := '"' :: c :: value ++ '"' :: gap
    if isQuotable c && value.all isQuotable && value.length < cs.length then
      match cs.drop (value.length + 1 + gap.length) with
      | [] => some written
      | ';' :: _ => some (written ++ [';'])
      | _ => none
    else none
  | _ => none

/-- The value of a parameter, as written, with what follows up to the next one. -/
def value? (text : List Char) : Option (List Char) :=
  if text.head? = some '"' then quotedValue? text
  else
    let value := text.takeWhile isToken
    match text.drop value.length with
    | [] => some value
    | ';' :: _ => if value.isEmpty then none else some (value ++ [';'])
    | _ => none

/-- Parameters after a semicolon, with names in lower case. -/
def parameters? (text : List Char) : Option (List Char) :=
  match text with
  | [] => some []
  | c :: cs =>
    if c = ' ' then (parameters? cs).map (' ' :: ·)
    else
      let name := (c :: cs).takeWhile isToken
      match (c :: cs).drop name.length with
      | '=' :: afterName => do
        let value ← value? afterName
        let rest ← parameters? (cs.drop (name.length + value.length))
        if name.isEmpty then none
        let name := name.map Char.toLower
        let value := if String.ofList name = "charset" then value.map Char.toLower else value
        return name ++ '=' :: value ++ rest
      | _ => none
termination_by text.length
decreasing_by all_goals simp only [List.length_cons, List.length_drop]; omega

/-- The media type that a text names. -/
def parse? (text : List Char) : Option MediaType := do
  let type := text.takeWhile isToken
  let '/' :: afterSlash := text.drop type.length | none
  let subtype := afterSlash.takeWhile isToken
  if type.isEmpty then none
  match afterSlash.drop subtype.length with
  | [] => some ⟨type.map Char.toLower, subtype.map Char.toLower, []⟩
  | ';' :: rest =>
    if subtype.isEmpty then none
    let parameters ← parameters? rest
    let written := if (rest.all (· = ' ')) then [] else ';' :: parameters
    some ⟨type.map Char.toLower, subtype.map Char.toLower, written⟩
  | _ => none

def text (m : MediaType) : String := .ofList (m.type ++ '/' :: m.subtype ++ m.parameters)

/-- What stands before the last plus sign of the subtype, if there is one not at
its start, and what stands after it. -/
def splitSuffix (m : MediaType) : List Char × Option (List Char) :=
  let suffix := (m.subtype.reverse.takeWhile (· ≠ '+')).reverse
  let head := m.subtype.take (m.subtype.length - suffix.length - 1)
  if head.isEmpty then (m.subtype, none) else (head, some suffix)

def isJson (m : MediaType) : Bool :=
  let json := "json".toList
  m.splitSuffix.1 = json || m.splitSuffix.2 = some json

end MediaType

end Datasheet
