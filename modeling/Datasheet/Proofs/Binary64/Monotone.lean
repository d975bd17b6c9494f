import Datasheet.Binary64.Arithmetic
import Datasheet.Proofs.Binary64.Integers
import Mathlib.Data.Nat.Log

/-!
# Rounding and order

Rounding keeps the order of what is rounded (`magnitude_ofUnits_mono`), and a number is
rounded to itself; so what lies between two numbers is rounded to one between them. Finite
numbers are in the order of their keys (`value_le_iff`), and sum, difference and product
are the exact ones, rounded (`key_add`, `key_sub`, `mul_eq`).

* `isFinite_ofUnits_iff`, `isFinite_sub`: what is rounded stays finite exactly if it is less
  than `overflow`;
* `exists_floor`: there is a number that is not greater than what is rounded, and not less
  than three quarters of what comes of it.
-/

namespace Datasheet.Binary64

/-! ## Magnitudes -/

theorem nearestEven_mono {m n : Nat} (h : m ≤ n) (d : Nat) :
    nearestEven m d ≤ nearestEven n d := by
  have hm := Nat.div_add_mod m d
  have hn := Nat.div_add_mod n d
  rcases Nat.lt_or_eq_of_le (Nat.div_le_div_right (c := d) h) with hlt | heq
  · have hhigh := nearestEven_le m d
    have hlow := div_le_nearestEven n d
    omega
  · -- Of two fractions between the same whole numbers the remainders decide.
    rw [heq] at hm
    have hmod : m % d ≤ n % d := by omega
    have hlow := div_le_nearestEven n d
    rw [nearestEven.eq_def m d, heq]
    split
    · exact hlow
    · have hhalf : ¬ 2 * (n % d) < d := by omega
      rw [nearestEven, if_neg hhalf]
      split <;> split <;> omega

theorem log2_mono {m n : Nat} (h : m ≤ n) : m.log2 ≤ n.log2 := by
  rw [Nat.log2_eq_log_two, Nat.log2_eq_log_two]
  exact Nat.log_mono_right h

/-- Rounding keeps the order of magnitudes. -/
theorem magnitude_ofUnits_mono {m n : Nat} (h : m ≤ n) (negative negative' : Bool) (d : Nat) :
    (ofUnits negative m d).magnitude ≤ (ofUnits negative' n d).magnitude := by
  rw [magnitude_ofUnits, magnitude_ofUnits]
  refine min_le_min_right _ ?_
  have hlog := log2_mono (Nat.div_le_div_right (c := d) h)
  rcases Nat.lt_or_ge ((m / d).log2 - 52) ((n / d).log2 - 52) with hlt | hge
  · -- The greatest word that the lesser scale carries into is the least of the next.
    have hhigh := nearestEven_le m (d <<< ((m / d).log2 - 52))
    have hsignificand := div_scale_lt m d
    have hlow := div_le_nearestEven n (d <<< ((n / d).log2 - 52))
    have hleading := @leadingBit_le_div_scale n d (by omega)
    have hscale := Nat.mul_le_mul_right leadingBit hlt
    rw [Nat.succ_mul] at hscale
    omega
  · have hscale : (m / d).log2 - 52 = (n / d).log2 - 52 := by omega
    rw [hscale]
    exact Nat.add_le_add_left (nearestEven_mono h _) _

/-! ## Values -/

theorem units_congr {x y : Binary64} (h : x.magnitude = y.magnitude) : x.units = y.units := by
  rw [units, units, significand, significand, scale, scale, h]

/-- Finite numbers are in the order of their magnitude words. -/
theorem units_le_iff {x y : Binary64} (hx : x.isFinite) (hy : y.isFinite) :
    x.units ≤ y.units ↔ x.magnitude ≤ y.magnitude := by
  have hmono {x y : Binary64} (hx : x.isFinite) (hy : y.isFinite) (h : x.units ≤ y.units) :
      x.magnitude ≤ y.magnitude := by
    have hround := magnitude_ofUnits_mono h x.negative y.negative 1
    rwa [ofUnits_units hx, ofUnits_units hy] at hround
  refine ⟨hmono hx hy, fun h => ?_⟩
  by_contra hlt
  have heq := Nat.le_antisymm h (hmono hy hx (by omega))
  rw [units_congr heq] at hlt
  exact hlt (Nat.le_refl _)

theorem units_eq_zero_iff {x : Binary64} : x.units = 0 ↔ x.magnitude = 0 := by
  rw [← isZero_iff, isZero, decide_eq_true_eq]

/-- Finite numbers are in the order of their keys. -/
theorem value_le_iff {x y : Binary64} (hx : x.isFinite) (hy : y.isFinite) :
    x.value ≤ y.value ↔ x.key ≤ y.key := by
  have hxy := units_le_iff hx hy
  have hyx := units_le_iff hy hx
  have hxzero := @units_eq_zero_iff x
  have hyzero := @units_eq_zero_iff y
  rw [value, value, key, key]
  cases x.negative <;> cases y.negative <;> simp only [Bool.false_eq_true, if_true, if_false] <;>
    omega

theorem value_neg (x : Binary64) : x.neg.value = -x.value := by
  have hunits : x.neg.units = x.units := units_congr rfl
  rw [value, value, hunits, neg]
  cases x.negative <;> simp

theorem natAbs_key (x : Binary64) : x.key.natAbs = x.magnitude := by
  rw [key]
  cases x.negative <;> simp

theorem isFinite_iff_key {x : Binary64} : x.isFinite ↔ x.key.natAbs < infinityWord := by
  rw [natAbs_key, isFinite, decide_eq_true_eq]

/-- What lies between finite numbers is finite. -/
theorem isFinite_of_key_le {x y z : Binary64} (hx : x.isFinite) (hz : z.isFinite)
    (hxy : x.key ≤ y.key) (hyz : y.key ≤ z.key) : y.isFinite := by
  rw [isFinite_iff_key] at hx hz ⊢
  omega

theorem key_le_of_totalKey_le {x y : Binary64} (h : x.totalKey ≤ y.totalKey) : x.key ≤ y.key := by
  rw [totalKey, totalKey] at h
  rw [key, key]
  cases hx : x.negative <;> cases hy : y.negative <;>
    simp only [hx, hy, Bool.false_eq_true, if_true, if_false] at h ⊢ <;> omega

/-- Numbers that are not NaN are compared by their keys. -/
theorem le_iff {x y : Binary64} (hx : x.isNaN = false) (hy : y.isNaN = false) :
    x.le y ↔ x.key ≤ y.key := by
  rw [le, lt, eqv, compare?, hx, hy]
  simp [Int.compare_eq_lt]
  omega

theorem le_of_key_le {x y : Binary64} (hx : x.isFinite) (hy : y.isFinite) (h : x.key ≤ y.key) :
    x.le y :=
  (le_iff (not_isNaN_of_isFinite hx) (not_isNaN_of_isFinite hy)).mpr h

/-! ## Rounded values -/

/-- The number nearest a whole number of units. -/
def ofValue (v : Int) : Binary64 := ofUnits (v < 0) v.natAbs 1

theorem key_ofValue_mono {v w : Int} (h : v ≤ w) : (ofValue v).key ≤ (ofValue w).key := by
  rw [key, key, ofValue, ofValue, negative_ofUnits, negative_ofUnits]
  by_cases hv : v < 0 <;> by_cases hw : w < 0 <;> simp only [hv, hw, decide_true, decide_false,
    Bool.false_eq_true, if_true, if_false]
  · exact Int.neg_le_neg (Int.ofNat_le.mpr (magnitude_ofUnits_mono (by omega) true true 1))
  · omega
  · omega
  · exact Int.ofNat_le.mpr (magnitude_ofUnits_mono (by omega) false false 1)

/-- A finite number is rounded to itself, but for the sign of zero. -/
theorem key_ofValue_value {x : Binary64} (hx : x.isFinite) : (ofValue x.value).key = x.key := by
  have hunits := @units_eq_zero_iff x
  have hword (negative : Bool) : (ofUnits negative x.units 1).magnitude = x.magnitude := by
    show (ofUnits x.negative x.units 1).magnitude = x.magnitude
    rw [ofUnits_units hx]
  rw [key, key, ofValue, negative_ofUnits, value]
  cases x.negative with
  | false => simp [hword]
  | true =>
    simp [hword]
    omega

/-- Finite numbers are added exactly and then rounded. -/
theorem add_eq {x y : Binary64} (hx : x.isFinite) (hy : y.isFinite) :
    x.add y = if x.value + y.value = 0 then zero (x.negative && y.negative)
      else ofValue (x.value + y.value) := by
  rw [add, not_isNaN_of_isFinite hx, not_isNaN_of_isFinite hy, isInfinite_eq_false hx,
    isInfinite_eq_false hy]
  rfl

theorem key_add {x y : Binary64} (hx : x.isFinite) (hy : y.isFinite) :
    (x.add y).key = (ofValue (x.value + y.value)).key := by
  rw [add_eq hx hy]
  split
  · rename_i hzero
    rw [hzero]
    cases x.negative && y.negative <;> decide
  · rfl

theorem key_sub {x y : Binary64} (hx : x.isFinite) (hy : y.isFinite) :
    (x.sub y).key = (ofValue (x.value - y.value)).key := by
  rw [sub, key_add hx (y.isFinite_neg ▸ hy), value_neg, Int.sub_eq_add_neg]

/-- Finite numbers are multiplied exactly and then rounded. -/
theorem mul_eq {x y : Binary64} (hx : x.isFinite) (hy : y.isFinite) :
    x.mul y = ofUnits (x.negative != y.negative) (x.units * y.units) one := by
  rw [mul, not_isNaN_of_isFinite hx, not_isNaN_of_isFinite hy, isInfinite_eq_false hx,
    isInfinite_eq_false hy]
  rfl

/-! ## Overflow -/

/-- The least whole number of units that is rounded to an infinity: half a gap beyond the
greatest finite number, or `2 ^ 1024 - 2 ^ 970`. -/
def overflow : Nat := 1 <<< 2098 - 1 <<< 2044

theorem isFinite_ofUnits_iff {negative : Bool} {n : Nat} :
    (ofUnits negative n 1).isFinite ↔ n < overflow := by
  have hgreatest : (ofUnits true (overflow - 1) 1).magnitude < infinityWord := by decide +kernel
  have hleast : infinityWord ≤ (ofUnits true overflow 1).magnitude := by decide +kernel
  have hpos : 0 < overflow := by decide +kernel
  rw [isFinite, decide_eq_true_eq]
  constructor
  · intro h
    by_contra hle
    have := magnitude_ofUnits_mono (Nat.le_of_not_lt hle) true negative 1
    omega
  · intro h
    have := magnitude_ofUnits_mono (Nat.le_sub_one_of_lt h) negative true 1
    omega

theorem isFinite_sub {x y : Binary64} (hx : x.isFinite) (hy : y.isFinite) :
    (x.sub y).isFinite ↔ (x.value - y.value).natAbs < overflow := by
  rw [isFinite_iff_key, key_sub hx hy, ← isFinite_iff_key, ofValue, isFinite_ofUnits_iff]

/-- A difference that is too great is the infinity of its sign. -/
theorem sub_eq_infinity {x y : Binary64} (hx : x.isFinite) (hy : y.isFinite)
    (h : ¬ (x.sub y).isFinite) : x.sub y = infinity (x.value < y.value) := by
  rw [sub, add_eq hx (y.isFinite_neg ▸ hy), value_neg, ← Int.sub_eq_add_neg] at h ⊢
  split at h
  · exact absurd (isFinite_zero _) h
  · rename_i hne
    have hsign : decide (x.value - y.value < 0) = decide (x.value < y.value) :=
      decide_eq_decide.mpr (by omega)
    rw [if_neg hne, ofValue, ofUnits_eq_infinity h, hsign]

/-! ## Below a rounded magnitude -/

/-- What does not exceed a finite number is not rounded to a greater one. -/
theorem magnitude_ofUnits_le {x : Binary64} (hx : x.isFinite) {n d : Nat} (hd : 0 < d)
    (h : n ≤ x.units * d) (negative : Bool) : (ofUnits negative n d).magnitude ≤ x.magnitude := by
  have hcovers : x.Covers (x.units * d) d := by
    simpa only [Nat.one_mul] using (covers_mul_iff hd).mpr x.covers_self
  have hround := magnitude_ofUnits_mono h negative x.negative d
  rwa [ofUnits_eq_of_covers hx hd hcovers] at hround

/-- The number that a magnitude is cut down to is at least three quarters of the one that it
is rounded to, even if that is the next number. -/
theorem exists_floor {negative : Bool} {n : Nat} (hfinite : (ofUnits negative n 1).isFinite) :
    ∃ x : Binary64, x.isFinite ∧ x.units ≤ n ∧ 3 * (ofUnits negative n 1).units ≤ 4 * x.units := by
  have hunits := units_ofUnits_eq hfinite
  rw [isFinite, decide_eq_true_eq, magnitude_ofUnits, Nat.div_one] at hfinite
  rw [Nat.div_one] at hunits
  have hsignificand := div_scale_lt n 1
  have hleading := @leadingBit_le_div_scale n 1
  rw [Nat.div_one] at hsignificand hleading
  have hlow := div_le_nearestEven n (1 <<< (n.log2 - 52))
  have hhigh := nearestEven_le n (1 <<< (n.log2 - 52))
  have hzero : n.log2 - 52 = 0 → nearestEven n (1 <<< (n.log2 - 52)) = n / 1 <<< (n.log2 - 52) := by
    intro hp
    rw [hp, Nat.shiftLeft_zero, nearestEven, Nat.mod_one]
    rfl
  generalize hp : n.log2 - 52 = p at *
  rw [Nat.shiftLeft_eq, Nat.one_mul] at *
  have hword : p * leadingBit + n / 2 ^ p < infinityWord := by omega
  let x : Binary64 := ⟨false, p * leadingBit + n / 2 ^ p, Nat.lt_trans hword infinityWord_lt⟩
  have hx : x.units = n / 2 ^ p * 2 ^ p := units_of_magnitude rfl hsignificand hleading
  refine ⟨x, decide_eq_true hword, ?_, ?_⟩
  · rw [hx]
    exact Nat.div_mul_le_self n _
  · rw [hunits, hx, ← Nat.mul_assoc, ← Nat.mul_assoc]
    refine Nat.mul_le_mul_right _ ?_
    rw [leadingBit] at hleading
    omega

end Datasheet.Binary64
