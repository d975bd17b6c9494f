import Datasheet.Json.Tree

/-!
# The value of a JSON text

A tree has a value (`Tree.toJson?`) unless a string holds half of a surrogate
pair, a number is too large, or lists and objects are nested too deeply. An
object with a repeated key has the last of its values.

A record is read from an object by the names of its fields, or from a list by
their order (`slots?`); what it does not name is ignored.
-/

namespace Datasheet

/-- How deeply lists and objects may be nested. -/
def Json.maxDepth : Nat := 127

namespace Tree

/-- The text of a string: code units in surrogate pairs are one character. -/
def text? : List StringPart → Option (List Char)
  | [] => some []
  | .char c :: parts => (text? parts).map (c :: ·)
  | .unit n :: parts =>
    if 0xD800 ≤ n && n < 0xDC00 then
      match parts with
      | .unit m :: parts =>
        if 0xDC00 ≤ m && m < 0xE000 then
          (text? parts).map (Char.ofNat (0x10000 + (n - 0xD800) * 0x400 + (m - 0xDC00)) :: ·)
        else none
      | _ => none
    else if 0xDC00 ≤ n && n < 0xE000 then none
    else (text? parts).map (Char.ofNat n :: ·)

/-- A whole number in the range of 64-bit words, signed or not, is an integer;
`-0` and all others are floating-point numbers, which have to be finite. -/
def number? (negative whole : Bool) (n : Numeral) : Option Json :=
  let digits := Nat.ofDigitChars 10 n.digits 0
  if whole && !negative && digits < Word.unsignedLimit then some (.int digits)
  else if whole && negative && 0 < digits && digits ≤ Word.signedLimit then some (.int (-digits))
  else
    let x := n.value negative
    if x.isFinite then some (.float x) else none

mutual

/-- The value of a tree in which lists and objects are nested at most `levels`
deep. -/
def toJson? (levels : Nat) : Tree → Option Json
  | null => some .null
  | bool b => some (.bool b)
  | number negative whole n => number? negative whole n
  | string parts => (text? parts).map fun s => .text (.ofList s)
  | list items => if levels = 0 then none else (itemsToJson? (levels - 1) items).map .list
  | object fields =>
    if levels = 0 then none else (fieldsToJson? (levels - 1) fields).map Json.sortedObject

def itemsToJson? (levels : Nat) : List Tree → Option (List Json)
  | [] => some []
  | item :: items => do
    let item ← item.toJson? levels
    let items ← itemsToJson? levels items
    return item :: items

def fieldsToJson? (levels : Nat) :
    List (List StringPart × Tree) → Option (List (String × Json))
  | [] => some []
  | (key, value) :: fields => do
    let key ← text? key
    let value ← value.toJson? levels
    let fields ← fieldsToJson? levels fields
    return (.ofList key, value) :: fields

end

end Tree

/-- The value of a JSON text. -/
def Json.parse? (text : List Char) : Option Json := do
  (← Tree.parse? text).toJson? maxDepth

/-! ## Records -/

/-- The value of each named field, none where it is absent; no value at all if a
named field is repeated. -/
def fieldSlots? {α : Type} (names : List String) (fields : List (String × α)) :
    Option (List (Option α)) :=
  names.mapM fun name =>
    match fields.filter (·.1 = name) with
    | [] => some none
    | [field] => some (some field.2)
    | _ => none

/-- The items of a list as the first of `count` fields; no value if there are
more. -/
def itemSlots? {α : Type} (count : Nat) (items : List α) : Option (List (Option α)) :=
  if count < items.length then none
  else some (items.map some ++ List.replicate (count - items.length) none)

/-- The fields of a record, as values. -/
def Json.slots? (names : List String) : Json → Option (List (Option Json))
  | object fields => fieldSlots? names fields
  | list items => itemSlots? names.length items
  | _ => none

/-- The fields of a record, as trees. -/
def Tree.slots? (names : List String) : Tree → Option (List (Option Tree))
  | object fields => do
    let fields ← fields.mapM fun (key, value) => (text? key).map fun k => (String.ofList k, value)
    fieldSlots? names fields
  | list items => itemSlots? names.length items
  | _ => none

/-- A field of text that may be absent or null. -/
def Json.optionalText? : Option Json → Option (Option String)
  | none | some null => some none
  | some (text s) => some (some s)
  | some _ => none

/-- A field of texts that may be absent. -/
def Json.textList? : Option Json → Option (List String)
  | none => some []
  | some (list items) => items.mapM fun item => match item with
    | text s => some s
    | _ => none
  | some _ => none

end Datasheet
