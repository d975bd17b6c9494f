import Datasheet.Proofs.Binary64.Finite
import Mathlib.Tactic.ByContra
import Mathlib.Tactic.Ring

/-!
# What is rounded to a number

A finite number is the whole multiple `significand` of the gap to the next number
(`units_eq`), and its magnitude word counts such multiples across all scales
(`magnitude_eq`). It covers the fractions up to half a gap away on either side
(`Covers`; the gap below the least significand of a scale is half as wide).

* `nearestEven_eq`: a fraction no further than a half from a whole number is
  rounded to it;
* `ofUnits_eq_of_covers`: a fraction that a finite number covers is rounded to that
  number;
* `Covers.lt_two_pow`, `Covers.two_pow_lt`: a number and what it covers lie on one
  side of each power of two, the power itself aside.
-/

namespace Datasheet.Binary64

/-! ## Numbers as multiples of their gap -/

/-- The distance to the next greater magnitude, in units. -/
def gap (x : Binary64) : Nat := 2 ^ x.scale

theorem gap_pos (x : Binary64) : 0 < x.gap := Nat.two_pow_pos x.scale

theorem leadingBit_eq : leadingBit = 2 ^ 52 := by decide

theorem one_eq : one = 2 ^ 1074 := by decide +kernel

theorem units_eq (x : Binary64) : x.units = x.significand * x.gap := Nat.shiftLeft_eq _ _

theorem significand_lt (x : Binary64) : x.significand < 2 * leadingBit := by
  have hfraction : x.magnitude % leadingBit < leadingBit := Nat.mod_lt _ (by decide)
  rw [significand]
  split <;> omega

theorem leadingBit_le_significand {x : Binary64} (h : x.scale ≠ 0) :
    leadingBit ≤ x.significand := by
  have hword : ¬ x.magnitude < leadingBit := fun hlt => h <| by
    rw [scale, Nat.div_eq_of_lt hlt]
  rw [significand, if_neg hword]
  exact Nat.le_add_right _ _

/-- The words of all numbers of one scale follow those of the scale below. -/
theorem magnitude_eq (x : Binary64) : x.magnitude = x.scale * leadingBit + x.significand := by
  rw [scale, significand]
  split
  · rename_i hlt
    rw [Nat.div_eq_of_lt hlt, Nat.zero_sub, Nat.zero_mul, Nat.zero_add]
  · rename_i hle
    have hquotient : 1 ≤ x.magnitude / leadingBit :=
      (Nat.one_le_div_iff (by decide)).mpr (Nat.le_of_not_lt hle)
    have hdiv := Nat.div_add_mod' x.magnitude leadingBit
    rw [Nat.sub_mul, Nat.one_mul]
    have hone : leadingBit ≤ x.magnitude / leadingBit * leadingBit :=
      Nat.le_mul_of_pos_left _ hquotient
    omega

/-- A power of two is a multiple of the gap, or the number is at least twice as great. -/
theorem two_pow_cases (x : Binary64) (k : Nat) :
    (∃ m, 2 ^ k = m * x.gap) ∨ (2 ^ k ≤ x.gap ∧ 2 ≤ x.significand) := by
  rcases Nat.lt_or_ge k x.scale with hlt | hle
  · have hleading := leadingBit_le_significand (Nat.ne_of_gt (Nat.zero_lt_of_lt hlt))
    exact .inr ⟨Nat.pow_le_pow_right (by decide) (Nat.le_of_lt hlt),
      Nat.le_trans (by decide) hleading⟩
  · exact .inl ⟨2 ^ (k - x.scale), by rw [gap, ← Nat.pow_add, Nat.sub_add_cancel hle]⟩

theorem ext_magnitude {x y : Binary64} (hsign : x.negative = y.negative)
    (hword : x.magnitude = y.magnitude) : x = y := by
  cases x
  cases y
  simp_all

/-! ## Rounding to a whole number -/

/-- A multiple that exceeds another one by half a step at most does not exceed it. -/
theorem le_of_half {a b step : Nat} (hstep : 0 < step)
    (h : 2 * (a * step) ≤ 2 * (b * step) + step) : a ≤ b := by
  by_contra hlt
  have hmul : (b + 1) * step ≤ a * step := Nat.mul_le_mul_right step (by omega)
  rw [Nat.add_mul] at hmul
  omega

/-- A fraction is rounded to the whole number that is at most a half away; from an odd
one it has to be less. -/
theorem nearestEven_eq {n d s : Nat} (hd : 0 < d) (hlow : 2 * (s * d) ≤ 2 * n + d)
    (hhigh : 2 * n ≤ 2 * (s * d) + d)
    (hodd : s % 2 = 1 → 2 * (s * d) < 2 * n + d ∧ 2 * n < 2 * (s * d) + d) :
    nearestEven n d = s := by
  have hdiv := Nat.div_add_mod' n d
  have hmod := Nat.mod_lt n hd
  have hbelow : s ≤ n / d + 1 := le_of_half hd (by rw [Nat.add_mul]; omega)
  have habove : n / d ≤ s := le_of_half hd (by omega)
  rw [nearestEven]
  rcases Nat.lt_or_eq_of_le habove with hlt | heq
  · -- The quotient is one less than the whole number, which is a half or less above.
    have hs : s = n / d + 1 := by omega
    have hmul : s * d = n / d * d + d := by rw [hs, Nat.add_mul, Nat.one_mul]
    split
    · omega
    · split <;> omega
  · rw [heq] at hdiv ⊢
    split
    · rfl
    · split <;> omega

/-! ## Rounding to a number -/

/-- How far the numbers that are rounded to a number reach below it, in quarters of a
unit. -/
def margin (x : Binary64) : Nat :=
  if x.significand = leadingBit && x.scale ≠ 0 then x.gap else 2 * x.gap

theorem margin_le (x : Binary64) : x.margin ≤ 2 * x.gap := by
  rw [margin]
  split <;> omega

/-- `n / d` units are at most as far from a number as it reaches; if the significand is
odd they are less far. -/
structure Covers (x : Binary64) (n d : Nat) : Prop where
  lower : 4 * (x.units * d) ≤ 4 * n + x.margin * d
  upper : 4 * n ≤ 4 * (x.units * d) + 2 * (x.gap * d)
  strict : x.significand % 2 = 1 →
    4 * (x.units * d) < 4 * n + x.margin * d ∧ 4 * n < 4 * (x.units * d) + 2 * (x.gap * d)

/-- A number covers itself. -/
theorem covers_self (x : Binary64) : x.Covers x.units 1 := by
  have hgap := x.gap_pos
  have hmargin : 0 < x.margin := by
    rw [margin]
    split <;> omega
  exact ⟨by omega, by omega, fun _ => ⟨by omega, by omega⟩⟩

theorem covers_mul_iff {x : Binary64} {n d k : Nat} (hk : 0 < k) :
    x.Covers (n * k) (d * k) ↔ x.Covers n d := by
  have hvalue : 4 * (x.units * (d * k)) = 4 * (x.units * d) * k := by ring
  have hlower : 4 * (n * k) + x.margin * (d * k) = (4 * n + x.margin * d) * k := by ring
  have hpoint : 4 * (n * k) = 4 * n * k := by ring
  have hupper : 4 * (x.units * (d * k)) + 2 * (x.gap * (d * k)) =
      (4 * (x.units * d) + 2 * (x.gap * d)) * k := by ring
  constructor
  · rintro ⟨hl, hu, hs⟩
    rw [hvalue, hlower] at hl
    rw [hupper, hpoint] at hu
    rw [hupper, hlower, hvalue, hpoint] at hs
    exact ⟨Nat.le_of_mul_le_mul_right hl hk, Nat.le_of_mul_le_mul_right hu hk, fun ho =>
      ⟨Nat.lt_of_mul_lt_mul_right (hs ho).1, Nat.lt_of_mul_lt_mul_right (hs ho).2⟩⟩
  · rintro ⟨hl, hu, hs⟩
    constructor
    · rw [hvalue, hlower]
      exact Nat.mul_le_mul_right k hl
    · rw [hupper, hpoint]
      exact Nat.mul_le_mul_right k hu
    · rw [hupper, hlower, hvalue, hpoint]
      exact fun ho => ⟨Nat.mul_lt_mul_of_pos_right (hs ho).1 hk,
        Nat.mul_lt_mul_of_pos_right (hs ho).2 hk⟩

namespace Covers

variable {x : Binary64} {n d : Nat} (h : x.Covers n d) (hd : 0 < d)

include h

/-- In multiples of the gap, what is covered is at most a half from the significand. -/
theorem halves : 2 * (x.significand * (d * x.gap)) ≤ 2 * n + d * x.gap ∧
    2 * n ≤ 2 * (x.significand * (d * x.gap)) + d * x.gap ∧
    (x.significand % 2 = 1 → 2 * (x.significand * (d * x.gap)) < 2 * n + d * x.gap ∧
      2 * n < 2 * (x.significand * (d * x.gap)) + d * x.gap) := by
  have hvalue : x.units * d = x.significand * (d * x.gap) := by
    rw [units_eq]
    ring
  have hmargin : x.margin * d ≤ 2 * (d * x.gap) := by
    rw [Nat.mul_comm d, ← Nat.mul_assoc]
    exact Nat.mul_le_mul_right d x.margin_le
  obtain ⟨hl, hu, hs⟩ := h
  rw [hvalue] at hl hs hu
  rw [Nat.mul_comm x.gap] at hu hs
  exact ⟨by omega, by omega, fun ho => ⟨by have := hs ho; omega, by have := hs ho; omega⟩⟩

include hd

/-- What is covered is less than the next power of two above the significands. -/
theorem lt_carry : n < 2 * leadingBit * (d * x.gap) := by
  have hstep : 0 < d * x.gap := Nat.mul_pos hd x.gap_pos
  have hmul : (x.significand + 1) * (d * x.gap) ≤ 2 * leadingBit * (d * x.gap) :=
    Nat.mul_le_mul_right _ x.significand_lt
  rw [Nat.add_mul, Nat.one_mul] at hmul
  have hhigh := h.halves.2.1
  omega

/-- The scale at which a covered fraction is rounded is that of the number, or the one
below it if the fraction lies below the least number of the scale. -/
theorem scale_cases : (n / d).log2 - 52 = x.scale ∨
    ((n / d).log2 - 52 + 1 = x.scale ∧ x.significand = leadingBit ∧
      n < leadingBit * (d * x.gap)) := by
  have hpower (k : Nat) : 2 ^ k * (d * x.gap) = 2 ^ (k + x.scale) * d := by
    rw [gap, Nat.pow_add]
    ring
  have hhigh : n / d < 2 ^ (53 + x.scale) := by
    rw [Nat.div_lt_iff_lt_mul hd, ← hpower]
    exact h.lt_carry hd
  rcases Nat.eq_zero_or_pos x.scale with hzero | hscale
  · -- At the least scale there is none below.
    left
    rw [hzero] at hhigh ⊢
    rcases Nat.eq_zero_or_pos (n / d) with hquotient | hquotient
    · rw [hquotient]
      rfl
    · have := (Nat.log2_lt (Nat.ne_of_gt hquotient)).mpr hhigh
      omega
  · rcases Nat.lt_or_ge n (leadingBit * (d * x.gap)) with hbelow | hinside
    · right
      have hleast : x.significand = leadingBit := by
        have hlow := h.halves.1
        exact Nat.le_antisymm (le_of_half (Nat.mul_pos hd x.gap_pos) (by omega))
          (leadingBit_le_significand (Nat.ne_of_gt hscale))
      have hlow : 2 ^ (51 + x.scale) ≤ n / d := by
        rw [Nat.le_div_iff_mul_le hd, ← hpower]
        have hlow := h.halves.1
        rw [hleast, leadingBit_eq] at hlow
        omega
      have hhigh : n / d < 2 ^ (52 + x.scale) := by
        rw [Nat.div_lt_iff_lt_mul hd, ← hpower]
        exact hbelow
      have hne : n / d ≠ 0 := Nat.ne_of_gt (Nat.lt_of_lt_of_le (Nat.two_pow_pos _) hlow)
      have := (Nat.log2_lt hne).mpr hhigh
      have := (Nat.le_log2 hne).mpr hlow
      exact ⟨by omega, hleast, hbelow⟩
    · left
      have hlow : 2 ^ (52 + x.scale) ≤ n / d := by
        rw [Nat.le_div_iff_mul_le hd, ← hpower]
        exact hinside
      have hne : n / d ≠ 0 := Nat.ne_of_gt (Nat.lt_of_lt_of_le (Nat.two_pow_pos _) hlow)
      have := (Nat.log2_lt hne).mpr hhigh
      have := (Nat.le_log2 hne).mpr hlow
      omega

/-- At the scale at which it is rounded, a covered fraction is rounded to the word of the
number: in the scale below, the word after all significands is the least of the next. -/
theorem word_eq : ((n / d).log2 - 52) * leadingBit + nearestEven n (d <<< ((n / d).log2 - 52)) =
    x.magnitude := by
  rw [Nat.shiftLeft_eq, magnitude_eq]
  rcases h.scale_cases hd with hscale | ⟨hscale, hleast, hbelow⟩
  · rw [hscale]
    obtain ⟨hlow, hhigh, hodd⟩ := h.halves
    exact congrArg _ (nearestEven_eq (Nat.mul_pos hd x.gap_pos) hlow hhigh hodd)
  · generalize (n / d).log2 - 52 = p at hscale ⊢
    have hstep : d * x.gap = 2 * (d * 2 ^ p) := by
      rw [gap, ← hscale, Nat.pow_succ]
      ring
    have hmargin : x.margin * d = d * x.gap := by
      rw [margin, if_pos (by simp [hleast, ← hscale]), Nat.mul_comm]
    have hvalue : x.units * d = leadingBit * (d * x.gap) := by
      rw [units_eq, hleast]
      ring
    have hlower := h.lower
    rw [hmargin, hvalue, hstep] at hlower
    rw [hstep] at hbelow
    have hcarry : nearestEven n (d * 2 ^ p) = 2 * leadingBit := by
      have hpos : 0 < d * 2 ^ p := Nat.mul_pos hd (Nat.two_pow_pos p)
      have hdouble : 2 * leadingBit * (d * 2 ^ p) = leadingBit * (2 * (d * 2 ^ p)) := by ring
      refine nearestEven_eq hpos ?_ ?_ fun hodd => ?_
      · omega
      · omega
      · omega
    rw [hcarry, hleast, ← hscale, Nat.add_mul]
    omega

/-! ### Powers of two -/

theorem lt_two_pow {k : Nat} (hx : x.units < 2 ^ k) : n < 2 ^ k * d := by
  have hstep : 0 < d * x.gap := Nat.mul_pos hd x.gap_pos
  have hhigh := h.halves.2.1
  rw [units_eq] at hx
  rcases two_pow_cases x k with ⟨m, hm⟩ | ⟨hgap, hsignificand⟩
  · rw [hm] at hx ⊢
    have hmul : (x.significand + 1) * (d * x.gap) ≤ m * (d * x.gap) :=
      Nat.mul_le_mul_right _ (Nat.lt_of_mul_lt_mul_right hx)
    have hpower : m * x.gap * d = m * (d * x.gap) := by ring
    rw [Nat.add_mul] at hmul
    omega
  · have hunits := Nat.le_mul_of_pos_left x.gap (Nat.lt_of_lt_of_le (by decide) hsignificand)
    omega

theorem two_pow_lt {k : Nat} (hx : 2 ^ k < x.units) : 2 ^ k * d < n := by
  have hstep : 0 < d * x.gap := Nat.mul_pos hd x.gap_pos
  have hlow := h.halves.1
  rw [units_eq] at hx
  rcases two_pow_cases x k with ⟨m, hm⟩ | ⟨hgap, hsignificand⟩
  · rw [hm] at hx ⊢
    have hmul : (m + 1) * (d * x.gap) ≤ x.significand * (d * x.gap) :=
      Nat.mul_le_mul_right _ (Nat.lt_of_mul_lt_mul_right hx)
    have hpower : m * x.gap * d = m * (d * x.gap) := by ring
    rw [Nat.add_mul] at hmul
    omega
  · have hmul : 2 * (d * x.gap) ≤ x.significand * (d * x.gap) :=
      Nat.mul_le_mul_right _ hsignificand
    have hpower : 2 ^ k * d ≤ d * x.gap := Nat.mul_comm d _ ▸ Nat.mul_le_mul_left d hgap
    omega

end Covers

/-- What a finite number covers is rounded to it. -/
theorem ofUnits_eq_of_covers {x : Binary64} {n d : Nat} (hx : x.isFinite) (hd : 0 < d)
    (h : x.Covers n d) : ofUnits x.negative n d = x := by
  rw [isFinite, decide_eq_true_eq] at hx
  refine ext_magnitude (negative_ofUnits _ n d) ?_
  rw [magnitude_ofUnits, h.word_eq hd]
  exact Nat.min_eq_left (Nat.le_of_lt hx)

/-- A number is rounded to itself. -/
theorem ofUnits_units {x : Binary64} (hx : x.isFinite) : ofUnits x.negative x.units 1 = x :=
  ofUnits_eq_of_covers hx Nat.one_pos x.covers_self

end Datasheet.Binary64
