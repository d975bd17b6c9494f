import Datasheet.Binary64.Shortest
import Datasheet.Binary64.Integral

/-!
# Numbers as text

Reading (`Binary64.parse?`) accepts an optional sign, then a numeral or one of
the words `inf`, `infinity` and `nan` in any case. A numeral has at least one
digit before its exponent; the point and the exponent are optional, and digits
may be missing on one side of the point.

Writing comes in three forms: `display` never uses an exponent, `compact` is
`display` with whole numbers below `10 ^ 15` written as integers (so without a
sign of zero), and `scientific` is the form of numbers in JSON text.
-/

namespace Datasheet

/-- A numeral: its digits before and after the point and its power of ten. -/
structure Numeral where
  whole : List Char
  fraction : List Char
  exponent : Int
deriving DecidableEq

namespace Numeral

/-- An exponent at the start of the text, and what follows it: the letter, an
optional sign and at least one digit. -/
def exponentPart : List Char → Option (Int × List Char)
  | [] => none
  | c :: cs =>
    let (negative, cs) := match cs with
      | '+' :: rest => (false, rest)
      | '-' :: rest => (true, rest)
      | rest => (false, rest)
    let digits := cs.takeWhile Char.isDigit
    if (c = 'e' || c = 'E') && !digits.isEmpty then
      let power : Int := Nat.ofDigitChars 10 digits 0
      some (if negative then -power else power, cs.dropWhile Char.isDigit)
    else none

/-- The digits after a point at the start of the text, and what follows them. -/
def fractionPart : List Char → List Char × List Char
  | '.' :: rest => (rest.takeWhile Char.isDigit, rest.dropWhile Char.isDigit)
  | rest => ([], rest)

/-- The longest numeral at the start of the text, and what follows it. Without
any digit it is empty, and an exponent letter without digits is not part of it. -/
def read (cs : List Char) : Numeral × List Char :=
  let (fraction, rest) := fractionPart (cs.dropWhile Char.isDigit)
  let (exponent, rest) := (exponentPart rest).getD (0, rest)
  (⟨cs.takeWhile Char.isDigit, fraction, exponent⟩, rest)

def digits (n : Numeral) : List Char := n.whole ++ n.fraction

/-- The number nearest the numeral. -/
def value (n : Numeral) (negative : Bool) : Binary64 :=
  .ofDecimal negative (Nat.ofDigitChars 10 n.digits 0) (n.exponent - n.fraction.length)

end Numeral

/-- A sign at the start of the text, true for minus, and what follows it. -/
def signPart : List Char → Bool × List Char
  | '+' :: rest => (false, rest)
  | '-' :: rest => (true, rest)
  | rest => (false, rest)

/-- Reads a whole number in the range of 64-bit signed integers: an optional
sign and at least one digit. -/
def parseInt64? (cs : List Char) : Option Int :=
  let (negative, digits) := signPart cs
  if digits.isEmpty || !digits.all Char.isDigit then none
  else Word.signed? negative (Nat.ofDigitChars 10 digits 0)

namespace Binary64

/-- Reads the whole text as a number. -/
def parse? (cs : List Char) : Option Binary64 :=
  let (negative, body) := signPart cs
  let word := body.map Char.toLower
  if word = ['i', 'n', 'f'] || word = ['i', 'n', 'f', 'i', 'n', 'i', 't', 'y'] then
    some (infinity negative)
  else if word = ['n', 'a', 'n'] then some { nan with negative }
  else
    let (numeral, rest) := Numeral.read body
    if rest.isEmpty && !numeral.digits.isEmpty then some (numeral.value negative) else none

/-- A decimal without exponent: zeros fill up to the point on either side. -/
def positional (d : Decimal) : List Char :=
  let digits := Nat.toDigits 10 d.digits
  let places := (-d.exponent).toNat
  if 0 ≤ d.exponent then digits ++ List.replicate d.exponent.toNat '0'
  else if places < digits.length then
    digits.take (digits.length - places) ++ '.' :: digits.drop (digits.length - places)
  else '0' :: '.' :: List.replicate (places - digits.length) '0' ++ digits

def signText (x : Binary64) : List Char := if x.negative then ['-'] else []

/-- The shortest text that reads back, without exponent; NaN has no sign. A tie
between two shortest decimals goes up. -/
def display (x : Binary64) : List Char :=
  if x.isNaN then ['N', 'a', 'N']
  else if x.isInfinite then x.signText ++ ['i', 'n', 'f']
  else if x.isZero then x.signText ++ ['0']
  else x.signText ++ positional (x.shortest .up)

/-- Whether the number is written as an integer: whole and below `10 ^ 15`. -/
def isCompact (x : Binary64) : Bool := x.isIntegral && x.units < 1000000000000000 * one

def intText (i : Int) : List Char :=
  if i < 0 then '-' :: Nat.toDigits 10 i.natAbs else Nat.toDigits 10 i.natAbs

/-- Whole numbers below `10 ^ 15` as integers, all others as `display`. -/
def compact (x : Binary64) : List Char :=
  if x.isCompact then intText x.truncate else x.display

/-- A finite number in JSON text: the shortest digits, always with a fraction or
an exponent. Positional from `10 ^ -5` up to below `10 ^ 16`; a tie between two
shortest decimals goes to the even one. -/
def scientific (x : Binary64) : List Char :=
  if x.isZero then x.signText ++ ['0', '.', '0']
  else
    let d := x.shortest .even
    let digits := Nat.toDigits 10 d.digits
    let point : Int := digits.length + d.exponent
    x.signText ++
      if -5 < point && point ≤ 16 then
        positional d ++ if 0 ≤ d.exponent then ['.', '0'] else []
      else
        let mantissa := match digits with
          | [] => []
          | [c] => [c]
          | c :: rest => c :: '.' :: rest
        mantissa ++ 'e' :: (if 0 < point then ['+'] else []) ++ intText (point - 1)

end Binary64

end Datasheet
