import Datasheet.Settings.Basic
import Datasheet.Toml.Document

/-!
# Sources of settings

Settings are given in a TOML document (`Settings.ofToml`) or in variables of the
environment (`Settings.ofEnvironment`). The text of a variable is a number, a
truth value, a list, a table or a quoted text if all of it can be read as one;
otherwise it stands for itself.
-/

namespace Datasheet

namespace SettingValue

def ofToml : Toml → SettingValue
  | .text s => text s
  | .int n => int n
  | _ => other

/-! ## Texts of variables -/

def isGap (c : Char) : Bool := c = ' ' || c = '\t' || c = '\n'

/-- How much of a text is a gap between words. -/
def gap (cs : List Char) : Nat := (cs.takeWhile isGap).length

/-- The characters that end a bare word. -/
def isSeparator (c : Char) : Bool := c ∈ [',', '{', '}', '[', ']']

/-- A text after its opening quote, as written with the closing one. -/
def quoted? : List Char → Option (List Char)
  | [] => none
  | '\\' :: c :: cs => (quoted? cs).map ('\\' :: c :: ·)
  | c :: cs => if c = '"' then some [c] else (quoted? cs).map (c :: ·)

/-- What a quoted text stands for, and how many characters it takes. -/
def quotedText? (cs : List Char) : Option (String × Nat) := do
  let written ← quoted? cs
  let (s, length) ← Toml.line? '"' written
  if length = written.length then some (.ofList s, length) else none

/-- The value of a bare word: a number with a point, a whole number of 64 bits, or
the word itself. -/
def ofWord (word : List Char) : SettingValue :=
  let float := if word.contains '.' then Binary64.parse? word else none
  let (negative, digits) := signPart word
  let n := Nat.ofDigitChars 10 digits 0
  if float.isSome then other
  else if digits.isEmpty || !digits.all Char.isDigit then text (.ofList word)
  else if !negative && n < Word.unsignedLimit then int n
  else ((Word.signed? negative n).map int).getD (text (.ofList word))

/-- The bare word at the start of a text with its value, and how many characters it
takes. -/
def bare (cs : List Char) : SettingValue × Nat :=
  if "true".toList.isPrefixOf cs then (other, 4)
  else if "false".toList.isPrefixOf cs then (other, 5)
  else
    let word := cs.takeWhile (!isSeparator ·)
    (ofWord (trim word), word.length)

/-- The name of a field at the start of a text, as the number of characters that it
takes. -/
def fieldName? (cs : List Char) : Option Nat :=
  match cs with
  | '"' :: rest => (quotedText? rest).map fun (_, length) => length + 1
  | cs =>
    let name := cs.takeWhile Toml.isNameChar
    if name.isEmpty then none else some name.length

mutual

/-- A value at the start of a text, and how many characters it takes with the gaps
around it. -/
def value? (levels : Nat) (cs : List Char) : Option (SettingValue × Nat) := do
  let before := gap cs
  let rest := cs.drop before
  let (value, length) ←
    match rest, levels with
    | '"' :: cs, _ => (quotedText? cs).map fun (s, length) => (text s, length + 1)
    | '[' :: cs, levels + 1 => (items? levels false cs.length cs).map fun n => (other, n + 1)
    | '{' :: cs, levels + 1 => (items? levels true cs.length cs).map fun n => (other, n + 1)
    | '[' :: _, 0 | '{' :: _, 0 => none
    | rest, _ => some (bare rest)
  return (value, before + length + gap (rest.drop length))
termination_by (levels, 0)

/-- The items of a list, or the fields of a table, after the opening bracket, as the
number of characters that they take with the closing one. There are at most
`count`. -/
def items? (levels : Nat) (named : Bool) (count : Nat) (cs : List Char) : Option Nat :=
  let closing := if named then '}' else ']'
  match count with
  | 0 => if cs.head? = some closing then some 1 else none
  | count + 1 =>
    if cs.head? = some closing then some 1
    else do
      let length ←
        if named then do
          let before := gap cs
          let name ← fieldName? (cs.drop before)
          let after := gap (cs.drop (before + name))
          if (cs.drop (before + name + after)).head? ≠ some '=' then none
          pure (before + name + after + 1)
        else pure 0
      let (_, taken) ← value? levels (cs.drop length)
      match cs.drop (length + taken) with
      | ',' :: rest => (items? levels named count rest).map (length + taken + 1 + ·)
      | c :: _ => if c = closing then some (length + taken + 1) else none
      | [] => none
termination_by (levels, count + 1)

end

/-- The value of a variable. -/
def ofVariable (s : String) : SettingValue :=
  let cs := trim s.toList
  match value? cs.length cs with
  | some (value, length) => if length = cs.length then value else text (.ofList cs)
  | none => text (.ofList cs)

end SettingValue

namespace Settings

/-- The settings of a document. -/
def ofToml (fault : String) (document : String) : Except Failure Settings :=
  match Toml.parse? document.toList with
  | none => .error (invalid fault)
  | some entries => read fault fun name => (entries.lookup name).map .ofToml

/-- The parts of a variable's name, in lower case. Two underscores divide it as a
point does. -/
def variablePath : List Char → List (List Char)
  | [] => [[]]
  | '_' :: '_' :: cs => [] :: variablePath cs
  | c :: cs =>
    if c = '.' then [] :: variablePath cs
    else
      match variablePath cs with
      | [] => [[c.toLower]]
      | part :: parts => (c.toLower :: part) :: parts

/-- The setting that a variable gives. What belongs to a part of a setting is a
table. -/
def ofVariable? (name value : String) : Option (String × SettingValue) :=
  match (variablePath name.toList).takeWhile (!·.isEmpty) with
  | [] => none
  | [part] => some (.ofList part, .ofVariable value)
  | part :: _ => some (.ofList part, .other)

/-- The settings of some variables; of two for one setting the later counts. -/
def ofEnvironment (fault : String) (environment : List (String × String)) :
    Except Failure Settings :=
  let given := environment.filterMap fun (name, value) => ofVariable? name value
  read fault fun name => given.reverse.lookup name

end Settings

end Datasheet
