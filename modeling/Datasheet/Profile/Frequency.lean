import Datasheet.Profile.ColumnType

/-!
# Frequencies of values

Values are counted by a key: the number of a cell in a numeric column, its truth
value in a boolean one, else its text. A ranking lists each key with its count,
the greatest first and keys of one count in the order of their first occurrence.
-/

namespace Datasheet

/-- What a cell is counted as in a column of a type. -/
def Cell.countingKey (type : ColumnType) (c : Cell) : String :=
  match type with
  | .integer | .float => (c.number?.map fun x => String.ofList x.compact).getD c.display
  | .boolean => (c.bool?.map boolText).getD c.display
  | .text | .empty => c.display

/-- The different keys, in the order of their first occurrence. -/
def distinct : List String → List String
  | [] => []
  | key :: keys => key :: (distinct keys).filter (· ≠ key)

/-- The different keys with their counts, by falling count. -/
def ranking (keys : List String) : List (String × Nat) :=
  ((distinct keys).map fun key => (key, keys.count key)).mergeSort fun a b => b.2 ≤ a.2

end Datasheet
