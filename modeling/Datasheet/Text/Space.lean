import Datasheet.Text.CharRanges

/-!
# White space

The Unicode property White_Space and what depends on it: `trim` cuts it off both
ends of a text, and a text is blank (`isBlank`) if nothing is left then.
-/

namespace Datasheet

/-- The property White_Space. -/
def spaceRanges : CharRanges :=
  [(0x9, 0xD), (0x20, 0x20), (0x85, 0x85), (0xA0, 0xA0), (0x1680, 0x1680), (0x2000, 0x200A),
   (0x2028, 0x2029), (0x202F, 0x202F), (0x205F, 0x205F), (0x3000, 0x3000)]

def isSpace (c : Char) : Bool := spaceRanges.contains c

/-- The text without white space at its start. -/
def trimStart (cs : List Char) : List Char := cs.dropWhile isSpace

/-- The text without white space at its end. -/
def trimEnd (cs : List Char) : List Char := (cs.reverse.dropWhile isSpace).reverse

/-- The text without white space at either end. -/
def trim (cs : List Char) : List Char := trimEnd (trimStart cs)

/-- Whether the text is white space only. -/
def isBlank (cs : List Char) : Bool := cs.all isSpace

end Datasheet
