import Datasheet.Binary64.Arithmetic

/-!
# Whole numbers among the floating-point numbers

Which numbers have no fractional part, and the roundings to one that has none.
All of them keep infinities, NaN and the sign of a zero result.
-/

namespace Datasheet.Binary64

def isIntegral (x : Binary64) : Bool := x.isFinite && x.units % one = 0

/-- The integer part of a finite number, toward zero. -/
def truncate (x : Binary64) : Int :=
  if x.negative then -((x.units / one : Nat) : Int) else (x.units / one : Nat)

/-- The greatest whole number that is not greater. -/
def floor (x : Binary64) : Binary64 :=
  if !x.isFinite then x
  else
    let whole := x.units / one + if x.negative && x.units % one ≠ 0 then 1 else 0
    ofUnits x.negative (whole * one) 1

/-- The whole number nearest a finite number; a half goes away from zero. -/
def roundAway (x : Binary64) : Binary64 :=
  if !x.isFinite then x else ofUnits x.negative ((2 * x.units + one) / (2 * one) * one) 1

end Datasheet.Binary64
