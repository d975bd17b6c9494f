import Datasheet.Binary64.Basic

/-!
# Arithmetic

Every operation is its exact result rounded once (`Binary64.ofUnits`), beside
the rules for infinities, NaN and the sign of zero. The square root and the
power are the machine's.
-/

namespace Datasheet.Binary64

/-- An exact sum of zero is `-0` only if both terms are. -/
def add (x y : Binary64) : Binary64 :=
  if x.isNaN || y.isNaN then nan
  else if x.isInfinite then
    if y.isInfinite && x.negative != y.negative then nan else x
  else if y.isInfinite then y
  else
    let sum := x.value + y.value
    if sum = 0 then zero (x.negative && y.negative) else ofUnits (sum < 0) sum.natAbs 1

def sub (x y : Binary64) : Binary64 := x.add y.neg

def mul (x y : Binary64) : Binary64 :=
  let negative := x.negative != y.negative
  if x.isNaN || y.isNaN then nan
  else if x.isInfinite || y.isInfinite then
    if x.isZero || y.isZero then nan else infinity negative
  else ofUnits negative (x.units * y.units) one

def div (x y : Binary64) : Binary64 :=
  let negative := x.negative != y.negative
  if x.isNaN || y.isNaN then nan
  else if x.isInfinite then if y.isInfinite then nan else infinity negative
  else if y.isInfinite then zero negative
  else if y.isZero then if x.isZero then nan else infinity negative
  else ofUnits negative (x.units * one) y.units

/-- The remainder of the division that rounds toward zero; it has the sign of
the dividend. -/
def rem (x y : Binary64) : Binary64 :=
  if x.isNaN || y.isNaN || x.isInfinite || y.isZero then nan
  else if y.isInfinite then x
  else ofUnits x.negative (x.units % y.units) 1

/-- The remainder whose sign follows the divisor. -/
def modulo (x y : Binary64) : Binary64 :=
  let r := x.rem y
  if !r.isZero && r.lt (zero false) != y.lt (zero false) then r.add y else r

def sqrt (x : Binary64) : Binary64 := ofFloat x.toFloat.sqrt

def pow (x y : Binary64) : Binary64 := ofFloat (x.toFloat.pow y.toFloat)

/-- The sum from left to right. It starts at `-0`, the neutral element of `add`. -/
def sum (xs : List Binary64) : Binary64 := xs.foldl add (zero true)

end Datasheet.Binary64
