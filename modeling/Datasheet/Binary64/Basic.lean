import Datasheet.Word

/-!
# Binary floating-point numbers

The number of a cell is an IEEE 754 binary64 datum. It is held as a sign and a
63-bit magnitude word (eleven exponent bits, then fifty-two fraction bits), so
equality is equality of all bits: `0` and `-0` differ, and so do the two signs
of NaN, which the order of a summary (`totalKey`) can tell apart.

* `units`: the magnitude of a finite number, a whole number of `2 ^ -1074`;
* `key`: an integer in the numeric order, on which comparisons are defined;
* `ofUnits`: the number nearest an exact fraction of units, ties to even.

The magnitude words of non-negative numbers are in the order of their values,
which is why `key` needs no decoding.
-/

namespace Datasheet

/-- A binary64 datum: its sign and its magnitude word. -/
structure Binary64 where
  negative : Bool
  magnitude : Nat
  magnitude_lt : magnitude < Word.signedLimit
deriving DecidableEq

namespace Binary64

/-- The leading bit of a significand: one more than the fraction bits can hold. -/
def leadingBit : Nat := 0x10000000000000

/-- The magnitude word of an infinity; greater words are NaN. -/
def infinityWord : Nat := 2047 * leadingBit

theorem infinityWord_lt : infinityWord < Word.signedLimit := by decide

/-- How many units of `2 ^ -1074` make one. -/
def one : Nat := 1 <<< 1074

theorem one_pos : 0 < one := by decide

def zero (negative : Bool) : Binary64 := ⟨negative, 0, by decide⟩

def infinity (negative : Bool) : Binary64 := ⟨negative, infinityWord, infinityWord_lt⟩

/-- The NaN that an invalid operation gives. -/
def nan : Binary64 := ⟨false, infinityWord + leadingBit / 2, by decide⟩

def isFinite (x : Binary64) : Bool := x.magnitude < infinityWord

def isInfinite (x : Binary64) : Bool := x.magnitude = infinityWord

def isNaN (x : Binary64) : Bool := infinityWord < x.magnitude

/-- Of either sign. -/
def isZero (x : Binary64) : Bool := x.magnitude = 0

def neg (x : Binary64) : Binary64 := { x with negative := !x.negative }

@[simp] theorem neg_neg (x : Binary64) : x.neg.neg = x := by
  simp [neg]

@[simp] theorem isFinite_neg (x : Binary64) : x.neg.isFinite = x.isFinite := rfl

/-! ## Values -/

/-- The significand of a finite number: the fraction bits, with the leading bit
of a normal number. -/
def significand (x : Binary64) : Nat :=
  if x.magnitude < leadingBit then x.magnitude else leadingBit + x.magnitude % leadingBit

/-- The power of two, in units, that the significand counts. -/
def scale (x : Binary64) : Nat := x.magnitude / leadingBit - 1

/-- The magnitude of a finite number in units of `2 ^ -1074`. -/
def units (x : Binary64) : Nat := x.significand <<< x.scale

/-- The value of a finite number in units of `2 ^ -1074`. -/
def value (x : Binary64) : Int := if x.negative then -(x.units : Int) else x.units

/-! ## Rounding -/

/-- The whole number nearest `n / d`; of two equally near, the even one. -/
def nearestEven (n d : Nat) : Nat :=
  if 2 * (n % d) < d then n / d
  else if d < 2 * (n % d) then n / d + 1
  else n / d + (n / d) % 2

/-- The number nearest `n / d` units, with the given sign; ties go to the even
significand, and what is too large becomes an infinity.

With `p` the least scale at which the quotient has at most 53 bits, a rounded
significand of `2 ^ 53` carries into the exponent field, and a quotient below
`2 ^ 52` can only occur at scale zero, where it is the word itself. -/
def ofUnits (negative : Bool) (n d : Nat) : Binary64 :=
  let p := (n / d).log2 - 52
  ⟨negative, min (p * leadingBit + nearestEven n (d <<< p)) infinityWord,
    Nat.lt_of_le_of_lt (Nat.min_le_right _ _) infinityWord_lt⟩

def ofNat (n : Nat) : Binary64 := ofUnits false (n * one) 1

def ofInt (i : Int) : Binary64 := ofUnits (i < 0) (i.natAbs * one) 1

/-- The number nearest `digits * 10 ^ exponent`. Decimals beyond the range of
the format by more than its whole width are settled without the power of ten. -/
def ofDecimal (negative : Bool) (digits : Nat) (exponent : Int) : Binary64 :=
  let length : Int := (Nat.toDigits 10 digits).length
  if digits = 0 then zero negative
  else if 400 < length + exponent then infinity negative
  else if length + exponent < -400 then zero negative
  else if 0 ≤ exponent then ofUnits negative (digits * Nat.pow 10 exponent.toNat * one) 1
  else ofUnits negative (digits * one) (Nat.pow 10 (-exponent).toNat)

/-! ## Order -/

/-- An integer in the numeric order of numbers that are not NaN; both zeros
have key zero. -/
def key (x : Binary64) : Int := if x.negative then -(x.magnitude : Int) else x.magnitude

/-- An integer in the total order of data: as `key`, with `-0` below `0` and NaN
beyond the infinity of its sign. -/
def totalKey (x : Binary64) : Int :=
  if x.negative then -(x.magnitude : Int) - 1 else x.magnitude

theorem totalKey_inj {x y : Binary64} : x.totalKey = y.totalKey ↔ x = y := by
  constructor
  · intro h
    cases x with | mk n m hm => cases y with | mk n' m' hm' =>
    cases n <;> cases n' <;> simp [totalKey] at h ⊢ <;> omega
  · rintro rfl
    rfl

/-- The numeric order; none when either is NaN. -/
def compare? (x y : Binary64) : Option Ordering :=
  if x.isNaN || y.isNaN then none else some (Ord.compare x.key y.key)

/-- Numeric equality: false of NaN, true of the two zeros. -/
def eqv (x y : Binary64) : Bool := x.compare? y = some .eq

def lt (x y : Binary64) : Bool := x.compare? y = some .lt

def le (x y : Binary64) : Bool := x.lt y || x.eqv y

/-! ## Machine numbers -/

/-- The machine number of the same datum. -/
def toFloat (x : Binary64) : Float :=
  Float.ofBits (UInt64.ofNat ((if x.negative then Word.signedLimit else 0) + x.magnitude))

def ofFloat (f : Float) : Binary64 :=
  ⟨Word.signedLimit ≤ f.toBits.toNat, f.toBits.toNat % Word.signedLimit,
    Nat.mod_lt _ (by decide)⟩

end Binary64

end Datasheet
