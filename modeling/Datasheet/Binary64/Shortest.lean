import Datasheet.Binary64.Basic

/-!
# Shortest decimals

The decimal with the fewest digits that reads back as a given number
(`Binary64.shortest`), nearest to it among those of that length. The search
works on the grids of 1, 2, ..., 17 digits: if any point of a grid reads back,
so does one of the number's two neighbours there, and seventeen digits always
suffice.

All of it is whole-number arithmetic in grains of `10 ^ -345`, below the last
digit of the least number.
-/

namespace Datasheet

/-- `digits * 10 ^ exponent`. -/
structure Decimal where
  digits : Nat
  exponent : Int
deriving DecidableEq

/-- Which of two equally near decimals is taken. -/
inductive Tie where
  | even
  | up
deriving DecidableEq

namespace Binary64

/-- How many decimal places a grain stands behind the point. -/
def grainPlaces : Nat := 345

/-- How many grains make one. -/
def oneInGrains : Nat := Nat.pow 10 grainPlaces

/-- Whether the decimal of `c` grains lies in the interval of reals that round to
the finite number `x`. The gap below a power of two is half the gap above it;
the ends belong to the interval if the significand is even. -/
def readsBack (x : Binary64) (c : Nat) : Bool :=
  let gap := 1 <<< x.scale
  let below := if x.significand = leadingBit && x.scale ≠ 0 then gap else 2 * gap
  let low := (4 * x.units - below) * oneInGrains
  let high := (4 * x.units + 2 * gap) * oneInGrains
  let point := 4 * c * one
  if x.significand % 2 = 0 then low ≤ point && point ≤ high else low < point && point < high

/-- The neighbour of `x` on the grid of `step` grains that reads back, as a
multiple of the step; the nearer one if both do. -/
def neighbour? (tie : Tie) (x : Binary64) (step : Nat) : Option Nat :=
  let exact := x.units * oneInGrains
  let low := exact / (one * step)
  match x.readsBack (low * step), x.readsBack ((low + 1) * step) with
  | false, false => none
  | true, false => some low
  | false, true => some (low + 1)
  | true, true =>
    match Ord.compare (2 * (exact % (one * step))) (one * step), tie with
    | .lt, _ => some low
    | .gt, _ => some (low + 1)
    | .eq, .up => some (low + 1)
    | .eq, .even => some (low + low % 2)

/-- The shortest decimal that reads back as the magnitude of a finite number
other than zero. The upper neighbour on the one-digit grid may be a ten, which
is written with one digit on the next grid. -/
def shortest (tie : Tie) (x : Binary64) : Decimal :=
  let length := (Nat.toDigits 10 (x.units * oneInGrains / one)).length
  let onGrid (size : Nat) : Option Decimal :=
    (x.neighbour? tie (Nat.pow 10 (length - size))).map fun c => ⟨c, (length - size : Nat) - grainPlaces⟩
  let found := ((List.range' 1 17).findSome? onGrid).getD ⟨0, 0⟩
  if found.digits = 10 then ⟨1, found.exponent + 1⟩ else found

end Binary64

end Datasheet
