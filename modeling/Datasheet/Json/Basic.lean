import Datasheet.Binary64.Text

/-!
# JSON values

A value keeps whole numbers and floating-point numbers apart, and the fields of
an object in order. `Json.render` writes a value without spaces; a number that
is not finite is written as `null`.
-/

namespace Datasheet

inductive Json where
  | null
  | bool (b : Bool)
  | int (n : Int)
  | float (x : Binary64)
  | text (s : String)
  | list (items : List Json)
  | object (fields : List (String × Json))

namespace Json

def hexDigit (n : Nat) : Char := Nat.digitChar (n % 16)

/-- A character within quotes: quotes, backslashes and controls are escaped. -/
def escapeChar (c : Char) : List Char :=
  if c = '"' then ['\\', '"']
  else if c = '\\' then ['\\', '\\']
  else if c = '\n' then ['\\', 'n']
  else if c = '\r' then ['\\', 'r']
  else if c = '\t' then ['\\', 't']
  else if c = '\x08' then ['\\', 'b']
  else if c = '\x0c' then ['\\', 'f']
  else if c.toNat < 0x20 then ['\\', 'u', '0', '0', hexDigit (c.toNat / 16), hexDigit c.toNat]
  else [c]

def renderText (s : String) : List Char := '"' :: s.toList.flatMap escapeChar ++ ['"']

mutual

def render : Json → List Char
  | null => ['n', 'u', 'l', 'l']
  | bool b => (boolWord b).toList
  | int n => Binary64.intText n
  | float x => if x.isFinite then x.scientific else ['n', 'u', 'l', 'l']
  | text s => renderText s
  | list items => '[' :: (renderItems items ++ [']'])
  | object fields => '{' :: (renderFields fields ++ ['}'])
where
  boolWord (b : Bool) : String := if b then "true" else "false"

/-- Items with commas between them. -/
def renderItems : List Json → List Char
  | [] => []
  | [item] => item.render
  | item :: items => item.render ++ ',' :: renderItems items

/-- Fields with commas between them. -/
def renderFields : List (String × Json) → List Char
  | [] => []
  | [(key, value)] => renderText key ++ ':' :: value.render
  | (key, value) :: fields => renderText key ++ ':' :: (value.render ++ ',' :: renderFields fields)

end

def toText (j : Json) : String := .ofList j.render

/-! ## Objects with sorted keys -/

/-- Sets a field among fields in ascending order of keys. -/
def insertField (key : String) (value : Json) : List (String × Json) → List (String × Json)
  | [] => [(key, value)]
  | (k, v) :: fields =>
    if key < k then (key, value) :: (k, v) :: fields
    else if key = k then (key, value) :: fields
    else (k, v) :: insertField key value fields

/-- The object with these fields in ascending order of keys; of fields with one
key the last counts. -/
def sortedObject (fields : List (String × Json)) : Json :=
  object (fields.foldl (fun sorted (key, value) => insertField key value sorted) [])

end Json

end Datasheet
