import Datasheet.Proofs.Binary64.Reading

/-!
# Integers as numbers

An integer is rounded to a number (`ofInt`). Up to `2 ^ 53` it is that number
(`units_ofInt`), so different integers are different numbers (`eq_of_ofInt`); beyond it
there are more integers than numbers.

* `compact_of_parseInt64?`: a text that spells an integer of 64 bits, with any sign and
  leading zeros, is a number that is written as the integer is;
* `ofInt_eq_of_compact`: two integers are written alike only if they are one number.
-/

namespace Datasheet.Binary64

/-! ## Exact rounding -/

/-- The multiple that a magnitude word counts, and its scale. -/
theorem units_of_magnitude {x : Binary64} {p m : Nat} (hword : x.magnitude = p * leadingBit + m)
    (hm : m < 2 * leadingBit) (hp : p ≠ 0 → leadingBit ≤ m) : x.units = m * 2 ^ p := by
  have hlt := x.significand_lt
  have hle := x.leadingBit_le_significand
  have hsame : x.scale = p ∧ x.significand = m := by
    rw [magnitude_eq] at hword
    rw [leadingBit] at hword hm hp hlt hle
    omega
  rw [units_eq, gap, hsame.1, hsame.2]

/-- What is rounded to a finite number is rounded to a multiple of the power of two at its
scale, also where the significand carries into the next scale. -/
theorem units_ofUnits_eq {negative : Bool} {n d : Nat} (hfinite : (ofUnits negative n d).isFinite) :
    (ofUnits negative n d).units =
      nearestEven n (d <<< ((n / d).log2 - 52)) * 2 ^ ((n / d).log2 - 52) := by
  rw [isFinite, decide_eq_true_eq, magnitude_ofUnits] at hfinite
  have hword := magnitude_ofUnits negative n d
  rw [Nat.min_eq_left (by omega)] at hword
  have hhigh := nearestEven_le n (d <<< ((n / d).log2 - 52))
  have hlow := div_le_nearestEven n (d <<< ((n / d).log2 - 52))
  have hsignificand := div_scale_lt n d
  have hleading := @leadingBit_le_div_scale n d
  generalize (n / d).log2 - 52 = p at *
  rcases Nat.lt_or_ge (nearestEven n (d <<< p)) (2 * leadingBit) with hlt | hge
  · exact units_of_magnitude hword hlt fun hp => Nat.le_trans (hleading hp) hlow
  · have hcarry : nearestEven n (d <<< p) = 2 * leadingBit := by omega
    have hnext : (ofUnits negative n d).magnitude = (p + 1) * leadingBit + leadingBit := by
      rw [hword, hcarry]
      ring
    rw [units_of_magnitude hnext (by decide) fun _ => Nat.le_refl _, hcarry, Nat.pow_succ]
    ring

/-- What is a multiple of the power of two at which it is rounded is rounded to itself. -/
theorem units_ofUnits {negative : Bool} {n : Nat} (hfinite : (ofUnits negative n 1).isFinite)
    (hdvd : 2 ^ (n.log2 - 52) ∣ n) : (ofUnits negative n 1).units = n := by
  rw [units_ofUnits_eq hfinite, Nat.div_one]
  generalize n.log2 - 52 = p at hdvd
  obtain ⟨q, rfl⟩ := hdvd
  have hpos : 0 < 2 ^ p := Nat.two_pow_pos p
  have hexact : nearestEven (2 ^ p * q) (1 <<< p) = q := by
    rw [Nat.shiftLeft_eq, Nat.one_mul, Nat.mul_comm]
    exact nearestEven_eq hpos (by omega) (by omega) fun _ => by omega
  rw [hexact, Nat.mul_comm]

/-! ## Integers -/

/-- Up to `2 ^ 53` an integer is rounded to itself. -/
theorem units_ofInt {i : Int} (h : i.natAbs ≤ 2 ^ 53) : (ofInt i).units = i.natAbs * one := by
  refine units_ofUnits (isFinite_ofInt (Nat.le_trans h (by decide))) ?_
  generalize i.natAbs = n at h
  rcases Nat.eq_zero_or_pos n with rfl | hpos
  · rw [Nat.zero_mul]
    exact Nat.dvd_zero _
  · rw [log2_mul_one (Nat.ne_of_gt hpos), one_eq]
    rcases Nat.lt_or_eq_of_le h with hlt | rfl
    · have hbits := (Nat.log2_lt (Nat.ne_of_gt hpos)).mpr hlt
      exact Nat.dvd_trans (Nat.pow_dvd_pow 2 (by omega)) (Nat.dvd_mul_left _ n)
    · rw [← Nat.pow_add, Nat.log2_two_pow]
      exact Nat.pow_dvd_pow 2 (by decide)

theorem eq_of_ofInt {i j : Int} (hi : i.natAbs ≤ 2 ^ 53) (hj : j.natAbs ≤ 2 ^ 53)
    (h : ofInt i = ofInt j) : i = j := by
  have habs : i.natAbs = j.natAbs := by
    refine Nat.eq_of_mul_eq_mul_right one_pos ?_
    rw [← units_ofInt hi, ← units_ofInt hj, h]
  have hsign : decide (i < 0) = decide (j < 0) := congrArg negative h
  have hsign' : i < 0 ↔ j < 0 := by simpa using hsign
  omega

/-- Only zero is rounded to zero. -/
theorem isZero_ofInt {i : Int} : (ofInt i).isZero ↔ i = 0 := by
  constructor
  · intro h
    by_contra hi
    rw [isZero, decide_eq_true_eq, ofInt, magnitude_ofUnits, Nat.div_one,
      log2_mul_one (Int.natAbs_ne_zero.mpr hi)] at h
    have hword : leadingBit ≤ (i.natAbs.log2 + 1074 - 52) * leadingBit :=
      Nat.le_mul_of_pos_left _ (by omega)
    rw [infinityWord, leadingBit] at h
    rw [leadingBit] at hword
    omega
  · rintro rfl
    decide

/-! ## Texts of integers -/

theorem ofInt_eq_of_compact {i j : Int} (hi : i.natAbs ≤ Word.signedLimit)
    (hj : j.natAbs ≤ Word.signedLimit) (h : (ofInt i).compact = (ofInt j).compact) :
    ofInt i = ofInt j := by
  have hread {i : Int} (hi : i.natAbs ≤ Word.signedLimit) :
      parse? (ofInt i).compact = some (ofInt i) := by
    rw [parse?_compact (isFinite_ofInt hi)]
    split
    · rename_i hzero
      rw [isZero_ofInt.mp hzero]
      decide
    · rfl
  have heq := hread hi
  rw [h, hread hj] at heq
  exact (Option.some.inj heq).symm

theorem natAbs_le_of_parseInt64? {cs : List Char} {i : Int} (h : parseInt64? cs = some i) :
    i.natAbs ≤ Word.signedLimit := by
  obtain ⟨negative, n, hn, rfl, -⟩ := exists_ofDecimal_of_parseInt64? h
  cases negative <;> simpa using hn

/-- An integer is counted as the number nearest it is written; zero has no sign then. -/
theorem compact_of_parseInt64? {cs : List Char} {i : Int} (h : parseInt64? cs = some i) :
    (parse? cs).map compact = some (ofInt i).compact := by
  obtain ⟨negative, n, hn, rfl, hparse⟩ := exists_ofDecimal_of_parseInt64? h
  rw [hparse]
  rcases Nat.eq_zero_or_pos n with rfl | hpos
  · cases negative <;> decide
  · have hsign : decide ((if negative then -(n : Int) else n) < 0) = negative := by
      cases negative <;> simp [hpos]
    have habs : (if negative then -(n : Int) else n).natAbs = n := by cases negative <;> simp
    rw [ofDecimal_whole (Nat.ne_of_gt hpos) hn, ofInt, hsign, habs]
    rfl

end Datasheet.Binary64
