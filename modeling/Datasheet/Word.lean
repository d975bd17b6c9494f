/-!
# Words

Whole numbers that fit a word of 64 bits, with a sign or without.
-/

namespace Datasheet.Word

/-- Signed words are less than this, and not less than its negation. -/
def signedLimit : Nat := 0x8000000000000000

/-- Words without a sign are less than this. -/
def unsignedLimit : Nat := 0x10000000000000000

/-- A number as a signed word: its sign and its magnitude. -/
def signed? (negative : Bool) (n : Nat) : Option Int :=
  if negative then if n ≤ signedLimit then some (-n) else none
  else if n < signedLimit then some n else none

end Datasheet.Word
