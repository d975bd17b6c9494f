import Datasheet.Toml.Scalar

/-!
# TOML documents

A document is read line by line (`Toml.parse?`): a line sets a name, starts a
table under a header, or is empty. Values may be nested `Toml.maxDepth` deep.
-/

namespace Datasheet.Toml

/-- How deeply lists and tables in braces may be nested. -/
def maxDepth : Nat := 79

mutual

/-- A value at the start of a text, and how many characters it takes. -/
def value? (levels : Nat) (text : List Char) : Option (Toml × Nat) :=
  match text with
  | '"' :: _ | '\'' :: _ => (quoted? text).map fun (s, length) => (.text (.ofList s), length)
  | '[' :: cs =>
    match levels with
    | 0 => none
    | levels + 1 => (items? levels cs.length cs).map fun (items, length) => (list items, length + 1)
  | '{' :: cs =>
    match levels with
    | 0 => none
    | levels + 1 =>
      let before := blanks cs
      match cs.drop before with
      | '}' :: _ => some (table .closed [], before + 2)
      | _ =>
        (fields? levels cs.length [] cs).map fun (entries, length) =>
          (table .closed entries, length + 1)
  | _ => word? text
termination_by (levels, 0)

/-- The items of a list after its opening bracket, with the closing one. There are
at most `count`. -/
def items? (levels count : Nat) (text : List Char) : Option (List Toml × Nat) :=
  let before := gap false text
  match text.drop before, count with
  | ']' :: _, _ => some ([], before + 1)
  | _, 0 => none
  | rest, count + 1 => do
    let (item, length) ← value? levels rest
    let after := gap false (rest.drop length)
    let taken := before + length + after
    match rest.drop (length + after) with
    | ']' :: _ => some ([item], taken + 1)
    | ',' :: cs =>
      let (items, more) ← items? levels count cs
      return (item :: items, taken + 1 + more)
    | _ => none
termination_by (levels, count + 1)

/-- The fields of a table after its opening brace, with the closing one, added to
some entries. There are at most `count`. -/
def fields? (levels count : Nat) (entries : Entries) (text : List Char) :
    Option (Entries × Nat) :=
  match count with
  | 0 => none
  | count + 1 => do
    let ((path, name), length) ← name? maxNameParts text
    let '=' :: cs := text.drop length | none
    let before := blanks cs
    let (value, taken) ← value? levels (cs.drop before)
    let entries ← set? path name value .closed entries
    let after := blanks (cs.drop (before + taken))
    let total := length + 1 + before + taken + after
    match cs.drop (before + taken + after) with
    | '}' :: _ => some (entries, total + 1)
    | ',' :: cs =>
      let (entries, more) ← fields? levels count entries cs
      return (entries, total + 1 + more)
    | _ => none
termination_by (levels, count + 1)

end

/-- How many characters end a line: blanks, a comment and the line end. -/
def lineEnd? (text : List Char) : Option Nat :=
  let before := blanks text
  let comment := match text.drop before with
    | '#' :: cs => (cs.takeWhile isTextChar).length + 1
    | _ => 0
  match text.drop (before + comment) with
  | [] => some (before + comment)
  | '\n' :: _ => some (before + comment + 1)
  | '\r' :: '\n' :: _ => some (before + comment + 2)
  | _ => none

/-- A document as far as it is read: its entries, and the path of the table that
the next lines belong to. -/
structure Draft where
  entries : Entries
  path : List String

/-- Sets a name in the table that is being read. -/
def Draft.set? (d : Draft) (path : List String) (name : String) (value : Toml) : Option Draft := do
  let change (origin : Origin) (entries : Entries) := Toml.set? path name value origin entries
  return { d with entries := ← changeAt? false change d.path .header d.entries }

/-- A header after its opening brackets, of which there are one or two. -/
def header? (brackets : Nat) (d : Draft) (text : List Char) : Option (Draft × Nat) := do
  let ((path, name), length) ← name? maxNameParts text
  if (text.drop length).take brackets ≠ List.replicate brackets ']' then none
  let start := if brackets = 1 then startTable? else startNextTable?
  return (⟨← start path name d.entries, path ++ [name]⟩, length + brackets)

/-- What a line says, after blanks, and how many characters of it do so. -/
def statement? (d : Draft) (text : List Char) : Option (Draft × Nat) :=
  match text with
  | '[' :: '[' :: cs => (header? 2 d cs).map fun (d, length) => (d, length + 2)
  | '[' :: cs => (header? 1 d cs).map fun (d, length) => (d, length + 1)
  | [] | '#' :: _ | '\n' :: _ | '\r' :: _ => some (d, 0)
  | line => do
    let ((path, name), length) ← name? maxNameParts line
    let '=' :: cs := line.drop length | none
    let before := blanks cs
    let (value, taken) ← value? maxDepth (cs.drop before)
    return (← d.set? path name value, length + 1 + before + taken)

/-- Reads the lines of a text, of which there are at most `count`. -/
def readLines? (count : Nat) (d : Draft) (text : List Char) : Option Draft :=
  match text, count with
  | [], _ => some d
  | _, 0 => none
  | _, count + 1 => do
    let before := blanks text
    let (d, length) ← statement? d (text.drop before)
    let ending ← lineEnd? (text.drop (before + length))
    readLines? count d (text.drop (before + length + ending))

/-- The entries of a document. -/
def parse? (text : List Char) : Option Entries := do
  let body := if text.head? = some '\uFEFF' then text.drop 1 else text
  let d ← readLines? body.length ⟨[], []⟩ body
  return d.entries

end Datasheet.Toml
