import Datasheet.Rule.Basic
import Datasheet.Service.Request

/-!
# JSON records in requests

The records that requests bring in their payload. Fields that a record does not
name are ignored; text fields may be absent or null; lists and objects may be
nested `Json.maxDepth` deep, the record itself included.
-/

namespace Datasheet

/-- The fields of the record in a payload, in the order of their names. -/
def Payload.record? (intake : Intake) (names : List String) (p : Payload) :
    Option (List (Option Tree)) :=
  (p.tree? intake).bind (Tree.slots? names)

/-- A text of a record that may be absent or null. -/
def Tree.optionalText? (slot : Option Tree) : Option (Option String) :=
  match slot with
  | none => some none
  | some tree => do Json.optionalText? (some (← tree.toJson? (Json.maxDepth - 1)))

structure DropRequest where
  content : Option String
  columns : List String

def DropRequest.fields : List String := ["file_content", "columns"]

def DropRequest.of? (intake : Intake) (p : Payload) : Option DropRequest := do
  match ← p.record? intake fields with
  | [content, columns] =>
    let names ← match columns with
      | none => some []
      | some tree => Json.textList? (← tree.toJson? (Json.maxDepth - 1))
    return ⟨← Tree.optionalText? content, names⟩
  | _ => none

structure AddRequest where
  content : Option String
  name : Option String
  rule : Rule

def AddRequest.fields : List String := ["file_content", "new_col", "formula", "condition"]

def AddRequest.of? (intake : Intake) (p : Payload) : Option AddRequest := do
  match ← p.record? intake fields with
  | [content, name, formula, condition] =>
    let condition ← match condition with
      | none | some .null => some none
      | some tree => (Condition.ofTree? (Json.maxDepth - 1) tree).map some
    let rule := Rule.ofRequest condition (← Tree.optionalText? formula)
    return ⟨← Tree.optionalText? content, ← Tree.optionalText? name, rule⟩
  | _ => none

/-- A record of a single text. -/
def Payload.textField? (intake : Intake) (name : String) (p : Payload) :
    Option (Option String) := do
  match ← p.record? intake [name] with
  | [slot] => Tree.optionalText? slot
  | _ => .none

/-- An empty text is as good as none. -/
def given (s : Option String) : Option String := s.filter (· ≠ "")

end Datasheet
