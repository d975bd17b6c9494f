import Datasheet.Binary64.Basic

/-!
# Finite numbers

Rounding gives a finite number or an infinity, never NaN (`ofUnits_eq_infinity`,
`ofDecimal_eq_infinity`). It gives a finite one for what is small enough
(`isFinite_ofUnits`), as integers of 64 bits are (`isFinite_ofDecimal`).
-/

namespace Datasheet.Binary64

theorem not_isNaN_of_isFinite {x : Binary64} (h : x.isFinite) : x.isNaN = false := by
  rw [isFinite, decide_eq_true_eq] at h
  rw [isNaN, decide_eq_false_iff_not]
  omega

theorem isFinite_zero (negative : Bool) : (zero negative).isFinite := by
  cases negative <;> decide

/-- Truth values count as finite numbers. -/
theorem isFinite_ofNat_toNat (b : Bool) : (ofNat b.toNat).isFinite := by
  cases b <;> decide +kernel

/-! ## Rounding -/

theorem negative_ofUnits (negative : Bool) (n d : Nat) :
    (ofUnits negative n d).negative = negative := rfl

theorem magnitude_ofUnits (negative : Bool) (n d : Nat) :
    (ofUnits negative n d).magnitude =
      min (((n / d).log2 - 52) * leadingBit + nearestEven n (d <<< ((n / d).log2 - 52)))
        infinityWord := rfl

/-- Rounding gives no NaN. -/
theorem ofUnits_eq_infinity {negative : Bool} {n d : Nat}
    (h : ¬ (ofUnits negative n d).isFinite) : ofUnits negative n d = infinity negative := by
  have hword : infinityWord ≤ (ofUnits negative n d).magnitude := by
    simpa [isFinite] using h
  have hmax : (ofUnits negative n d).magnitude ≤ infinityWord := Nat.min_le_right _ _
  have hmagnitude := Nat.le_antisymm hmax hword
  rw [ofUnits] at hmagnitude ⊢
  simp only [infinity, mk.injEq, true_and]
  exact hmagnitude

theorem div_le_nearestEven (n d : Nat) : n / d ≤ nearestEven n d := by
  rw [nearestEven]
  split
  · omega
  · split <;> omega

theorem nearestEven_le (n d : Nat) : nearestEven n d ≤ n / d + 1 := by
  rw [nearestEven]
  split
  · omega
  · split <;> omega

/-- The scale at which a fraction is rounded leaves it at most 53 bits. -/
theorem div_scale_lt (n d : Nat) : n / (d <<< ((n / d).log2 - 52)) < 2 * leadingBit := by
  generalize hp : (n / d).log2 - 52 = p
  have hbits : n / d < 2 ^ (53 + p) :=
    Nat.lt_of_lt_of_le Nat.lt_log2_self (Nat.pow_le_pow_right (by decide) (by omega))
  have hleading : 2 * leadingBit = 2 ^ 53 := by decide
  rw [Nat.shiftLeft_eq, ← Nat.div_div_eq_div_mul, Nat.div_lt_iff_lt_mul (Nat.two_pow_pos p),
    hleading, ← Nat.pow_add]
  exact hbits

/-- Above the least scale it has exactly 53 bits. -/
theorem leadingBit_le_div_scale {n d : Nat} (h : (n / d).log2 - 52 ≠ 0) :
    leadingBit ≤ n / (d <<< ((n / d).log2 - 52)) := by
  have hne : n / d ≠ 0 := by
    intro hzero
    rw [hzero] at h
    exact h rfl
  have hleading : leadingBit = 2 ^ 52 := by decide
  have hbits : 2 ^ (52 + ((n / d).log2 - 52)) ≤ n / d := (Nat.le_log2 hne).mp (by omega)
  rw [Nat.shiftLeft_eq, ← Nat.div_div_eq_div_mul, Nat.le_div_iff_mul_le (Nat.two_pow_pos _),
    hleading, ← Nat.pow_add]
  exact hbits

/-- Below `2 ^ 1023`, which is `2 ^ 2097` units, rounding gives a finite number. -/
theorem isFinite_ofUnits {negative : Bool} {n d : Nat} (h : (n / d).log2 < 2097) :
    (ofUnits negative n d).isFinite := by
  have hsignificand := div_scale_lt n d
  have hround := nearestEven_le n (d <<< ((n / d).log2 - 52))
  rw [isFinite, decide_eq_true_eq, magnitude_ofUnits, infinityWord]
  rw [leadingBit] at hsignificand ⊢
  omega

/-! ## Decimals -/

theorem ofDecimal_cases (negative : Bool) (digits : Nat) (exponent : Int) :
    ofDecimal negative digits exponent = zero negative ∨
      ofDecimal negative digits exponent = infinity negative ∨
      ∃ n d, ofDecimal negative digits exponent = ofUnits negative n d := by
  rw [ofDecimal]
  split
  · exact .inl rfl
  · split
    · exact .inr (.inl rfl)
    · split
      · exact .inl rfl
      · split <;> exact .inr (.inr ⟨_, _, rfl⟩)

/-- A decimal that is out of range is an infinity of its sign. -/
theorem ofDecimal_eq_infinity {negative : Bool} {digits : Nat} {exponent : Int}
    (h : ¬ (ofDecimal negative digits exponent).isFinite) :
    ofDecimal negative digits exponent = infinity negative := by
  rcases ofDecimal_cases negative digits exponent with hzero | hinfinity | ⟨n, d, hround⟩
  · rw [hzero] at h
    exact absurd (isFinite_zero negative) h
  · exact hinfinity
  · rw [hround] at h ⊢
    exact ofUnits_eq_infinity h

theorem log2_mul_shiftLeft {n : Nat} (hn : n ≠ 0) (k : Nat) : (n * 1 <<< k).log2 = n.log2 + k := by
  have hpos := Nat.two_pow_pos k
  rw [Nat.shiftLeft_eq, Nat.one_mul, Nat.log2_eq_iff (Nat.mul_ne_zero hn (Nat.ne_of_gt hpos))]
  constructor
  · rw [Nat.pow_add]
    exact Nat.mul_le_mul_right _ (Nat.log2_self_le hn)
  · rw [Nat.add_right_comm, Nat.pow_add]
    exact Nat.mul_lt_mul_of_pos_right Nat.lt_log2_self hpos

theorem log2_mul_one {n : Nat} (hn : n ≠ 0) : (n * one).log2 = n.log2 + 1074 :=
  log2_mul_shiftLeft hn 1074

/-- Whole numbers of 64 bits are in range. -/
theorem isFinite_ofUnits_whole {negative : Bool} {n : Nat} (h : n ≤ Word.signedLimit) :
    (ofUnits negative (n * one) 1).isFinite := by
  refine isFinite_ofUnits ?_
  rw [Nat.div_one]
  rcases Nat.eq_zero_or_pos n with rfl | hn
  · rw [Nat.zero_mul]
    decide
  · have hne := Nat.ne_of_gt hn
    have hbits : n.log2 < 64 := (Nat.log2_lt hne).mpr (Nat.lt_of_le_of_lt h (by decide))
    rw [log2_mul_one hne]
    omega

/-- A whole number of 64 bits is rounded without a power of ten. -/
theorem ofDecimal_whole {negative : Bool} {n : Nat} (hn : n ≠ 0) (h : n ≤ Word.signedLimit) :
    ofDecimal negative n 0 = ofUnits negative (n * one) 1 := by
  have hlength : (Nat.toDigits 10 n).length ≤ 19 :=
    (Nat.length_toDigits_le_iff (by decide) (by decide)).mpr (Nat.lt_of_le_of_lt h (by decide))
  have hpower : n * Nat.pow 10 (0 : Int).toNat = n := Nat.mul_one n
  rw [ofDecimal, if_neg hn, if_neg (by omega), if_neg (by omega), if_pos (by decide), hpower]

theorem isFinite_ofDecimal {negative : Bool} {n : Nat} (h : n ≤ Word.signedLimit) :
    (ofDecimal negative n 0).isFinite := by
  rcases Nat.eq_zero_or_pos n with rfl | hn
  · exact isFinite_zero negative
  · rw [ofDecimal_whole (Nat.ne_of_gt hn) h]
    exact isFinite_ofUnits_whole h

theorem isFinite_ofInt {i : Int} (h : i.natAbs ≤ Word.signedLimit) : (ofInt i).isFinite :=
  isFinite_ofUnits_whole h

end Datasheet.Binary64
