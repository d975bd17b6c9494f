/-!
# Punycode

Texts as ASCII letters, digits and hyphens. The ASCII characters of a text come
first (`encode`); then, for the others in ascending order, the steps between the
places where they go, each as a numeral with digits of varying weight. `decode?`
puts them back in place.
-/

namespace Datasheet.Punycode

/-- How many digits there are. -/
def base : Nat := 36

/-- The least value of the digit at position `k` that does not end a numeral. -/
def threshold (k bias : Nat) : Nat := min 26 (max 1 (k - bias))

theorem threshold_pos (k bias : Nat) : 0 < threshold k bias := by unfold threshold; omega

/-- The bias for steps of about this size. -/
def biasOf (k delta : Nat) : Nat :=
  if 455 < delta then biasOf (k + base) (delta / 35) else k + base * delta / (delta + 38)
termination_by delta
decreasing_by omega

/-- The bias after a step to a text of `length` characters. -/
def adapt (delta length : Nat) (isFirst : Bool) : Nat :=
  let scaled := if isFirst then delta / 700 else delta / 2
  biasOf 0 (scaled + scaled / length)

def firstBias : Nat := 72

/-- The first code point that is not ASCII. -/
def firstPoint : Nat := 0x80

def isAscii (c : Char) : Bool := c.toNat < firstPoint

/-! ## Encoding -/

def digitChar (d : Nat) : Char := Char.ofNat (if d < 26 then 'a'.toNat + d else '0'.toNat + (d - 26))

/-- The digits of a number from position `k` on. -/
def digits (bias k n : Nat) : List Char :=
  let t := threshold k bias
  if n < t then [digitChar n]
  else digitChar (t + (n - t) % (base - t)) :: digits bias (k + base) ((n - t) / (base - t))
termination_by n
decreasing_by
  have := threshold_pos k bias
  have := Nat.div_le_self (n - threshold k bias) (base - threshold k bias)
  omega

/-- How far the encoding of a text has come: the steps since the last insertion,
the bias, how many characters are in place, and whether any was inserted. -/
structure Progress where
  delta : Nat
  bias : Nat
  placed : Nat
  isFirst : Bool

/-- The digits for the places of one code point in a text. -/
def insertions (point : Nat) : Progress → List Char → List Char × Progress
  | p, [] => ([], p)
  | p, c :: cs =>
    if c.toNat < point then insertions point { p with delta := p.delta + 1 } cs
    else if c.toNat = point then
      let next : Progress := ⟨0, adapt p.delta (p.placed + 1) p.isFirst, p.placed + 1, false⟩
      let (rest, p') := insertions point next cs
      (digits p.bias base p.delta ++ rest, p')
    else insertions point p cs

/-- The digits for the places of some code points in ascending order, from `point`
on. -/
def insertAll (text : List Char) (point : Nat) (p : Progress) : List Nat → List Char
  | [] => []
  | next :: points =>
    let delta := p.delta + (next - point) * (p.placed + 1)
    let (written, p) := insertions next { p with delta } text
    written ++ insertAll text (next + 1) { p with delta := p.delta + 1 } points

/-- The code points of a text that are not ASCII, each once, in ascending order. -/
def extraPoints (text : List Char) : List Nat :=
  (((text.filter (!isAscii ·)).map Char.toNat).mergeSort).eraseDups

def encode (text : List Char) : List Char :=
  let plain := text.filter isAscii
  let start : Progress := ⟨0, firstBias, plain.length, true⟩
  plain ++ (if plain.isEmpty then [] else ['-'])
    ++ insertAll text firstPoint start (extraPoints text)

/-! ## Decoding -/

def digitValue? (c : Char) : Option Nat :=
  if 'a' ≤ c && c ≤ 'z' then some (c.toNat - 'a'.toNat)
  else if 'A' ≤ c && c ≤ 'Z' then some (c.toNat - 'A'.toNat)
  else if c.isDigit then some (c.toNat - '0'.toNat + 26)
  else none

/-- Numbers have to be less than this. -/
def numberLimit : Nat := 0x100000000

/-- Adds the numeral at the start of some digits to `n`, from position `k` of this
weight on: the sum, and how many digits there are after the first. -/
def number? (bias k weight n : Nat) : List Char → Option (Nat × Nat)
  | [] => none
  | c :: cs => do
    let d ← digitValue? c
    let t := threshold k bias
    let n := n + d * weight
    if numberLimit ≤ n then none
    if d < t then some (n, 0)
    else if numberLimit ≤ weight * (base - t) then none
    else (number? bias (k + base) (weight * (base - t)) n cs).map fun (n, more) => (n, more + 1)

/-- Puts the characters of some digits into a text, from a code point and a place
on. -/
def insertFrom (bias point place : Nat) (text : List Char) : List Char → Option (List Char)
  | [] => some text
  | c :: cs => do
    let (n, more) ← number? bias base 1 place (c :: cs)
    let point := point + n / (text.length + 1)
    let at' := n % (text.length + 1)
    if !point.isValidChar then none
    insertFrom (adapt (n - place) (text.length + 1) (place = 0)) point (at' + 1)
      (text.insertIdx at' (Char.ofNat point)) (cs.drop more)
termination_by digits => digits.length
decreasing_by simp only [List.length_cons, List.length_drop]; omega

/-- The text that is encoded: what stands before the last hyphen, with the
characters of the digits after it put in. -/
def decode? (encoded : List Char) : Option (List Char) :=
  let digits := (encoded.reverse.takeWhile (· ≠ '-')).reverse
  let plain := encoded.take (encoded.length - digits.length - 1)
  if !plain.all isAscii || encoded.head? = some '-' && plain.isEmpty then none
  else insertFrom firstBias firstPoint 0 plain digits

end Datasheet.Punycode
