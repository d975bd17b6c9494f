/-!
# Sets of characters

A character property as the list of its ranges of code points, ends included.
-/

namespace Datasheet

/-- Ranges of code points in ascending order. -/
abbrev CharRanges := List (Nat × Nat)

def CharRanges.contains (ranges : CharRanges) (c : Char) : Bool :=
  ranges.any fun (first, last) => first ≤ c.toNat && c.toNat ≤ last

end Datasheet
