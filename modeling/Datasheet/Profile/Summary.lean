import Datasheet.Binary64.Arithmetic

/-!
# Summaries of numbers

Count, mean, sample standard deviation, extremes and quartiles. All of them are
computed from the values in ascending total order, so a summary does not depend
on the order of the values.
-/

namespace Datasheet

structure Summary where
  count : Nat
  mean : Binary64
  /-- None for a single value. -/
  std : Option Binary64
  min : Binary64
  quartile1 : Binary64
  median : Binary64
  quartile3 : Binary64
  max : Binary64
deriving DecidableEq

namespace Summary

/-- The values in ascending total order. -/
def sort (xs : List Binary64) : List Binary64 :=
  xs.mergeSort fun x y => x.totalKey ≤ y.totalKey

/-- Interpolates between sorted values, `rank` quarters of a step after the
first. -/
def interpolate (sorted : List Binary64) (rank : Nat) : Binary64 :=
  let value (i : Nat) := sorted[i]?.getD .nan
  let lower := value (rank / 4)
  let upper := value ((rank + 3) / 4)
  let weight := Binary64.ofUnits false (rank % 4 * Binary64.one) 4
  lower.add ((upper.sub lower).mul weight)

/-- The `k`-th quartile of sorted values. -/
def quartile (sorted : List Binary64) (k : Nat) : Binary64 :=
  interpolate sorted (k * (sorted.length - 1))

def meanOf (sorted : List Binary64) : Binary64 :=
  (Binary64.sum sorted).div (.ofNat sorted.length)

/-- The sample standard deviation, none below two values. -/
def stdOf? (sorted : List Binary64) : Option Binary64 :=
  if sorted.length < 2 then none
  else
    let mean := meanOf sorted
    let squares := sorted.map fun x => (x.sub mean).mul (x.sub mean)
    some ((Binary64.sum squares).div (.ofNat (sorted.length - 1))).sqrt

/-- The summary of sorted values. -/
def ofSorted? : List Binary64 → Option Summary
  | [] => none
  | x :: xs => some {
      count := xs.length + 1
      mean := meanOf (x :: xs)
      std := stdOf? (x :: xs)
      min := x
      quartile1 := quartile (x :: xs) 1
      median := quartile (x :: xs) 2
      quartile3 := quartile (x :: xs) 3
      max := xs.getLastD x }

/-- The summary of some values; none if there are none. -/
def of? (xs : List Binary64) : Option Summary := ofSorted? (sort xs)

end Summary

end Datasheet
