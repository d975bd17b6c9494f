import Datasheet.Text.Space

/-!
# Column names from a header line

A header line may hold blank and repeated names; a table may not.
`uniqueNames` names blank headers after their position and numbers repeats.
-/

namespace Datasheet

/-- The name a header asks for: a blank one is named after its position. -/
def baseName (index : Nat) (header : String) : String :=
  if isBlank header.toList then "Unnamed: " ++ toString index else header

/-- The `k`-th variant of a name. -/
def numberedName (base : String) (k : Nat) : String := base ++ "." ++ toString k

/-- The base if it is not taken, else its first variant that is not. One of
`taken.length + 1` variants is free. -/
def freeName (taken : List String) (base : String) : String :=
  if base ∉ taken then base
  else
    let free? (k : Nat) : Option String :=
      let name := numberedName base k
      if name ∉ taken then some name else none
    ((List.range' 1 (taken.length + 1)).findSome? free?).getD base

/-- Names for the headers from position `index` on, given the names before. -/
def uniqueNamesFrom (taken : List String) (index : Nat) : List String → List String
  | [] => []
  | header :: headers =>
    let name := freeName taken (baseName index header)
    name :: uniqueNamesFrom (name :: taken) (index + 1) headers

/-- Distinct names, none of them blank, for a header line. -/
def uniqueNames (headers : List String) : List String := uniqueNamesFrom [] 0 headers

end Datasheet
