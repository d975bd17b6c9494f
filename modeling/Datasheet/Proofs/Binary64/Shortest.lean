import Datasheet.Binary64.Shortest
import Datasheet.Proofs.Binary64.Rounding

/-!
# Shortest decimals read back

A decimal reads back if the number covers it (`readsBack_iff`). A grid of decimals has
one next to the number that does as soon as its step is less than a `10 ^ 16`-th of the
number (`isSome_neighbour?_of_fine`), so the search succeeds with seventeen digits at the
latest (`exists_shortest`).

* `covers_shortest`: the shortest decimal reads back;
* `exponent_shortest_iff`: it has places behind the point if and only if the number is
  not whole.
-/

namespace Datasheet

/-- The leading digit of a number is not zero. -/
theorem pow_length_toDigits_le {n : Nat} (hn : n ≠ 0) :
    10 ^ ((Nat.toDigits 10 n).length - 1) ≤ n := by
  by_contra hlt
  have hlength : 0 < (Nat.toDigits 10 n).length - 1 := by
    by_contra hzero
    rw [Nat.eq_zero_of_not_pos hzero, Nat.pow_zero] at hlt
    omega
  have hshort := (Nat.length_toDigits_le_iff (b := 10) (by decide) hlength).mpr
    (Nat.lt_of_not_le hlt)
  omega

/-- The value of a decimal in grains, if it has no digit below them. -/
def Decimal.grains (d : Decimal) : Nat :=
  d.digits * 10 ^ (d.exponent + Binary64.grainPlaces).toNat

namespace Binary64

theorem oneInGrains_eq : oneInGrains = 10 ^ grainPlaces := by decide +kernel

theorem oneInGrains_pos : 0 < oneInGrains := by decide +kernel

/-! ## Decimals that read back -/

/-- The decimals that read back are those that the number covers. -/
theorem readsBack_iff (x : Binary64) (c : Nat) :
    x.readsBack c ↔ x.Covers (c * one) oneInGrains := by
  have hlow : (4 * x.units - x.margin) * oneInGrains =
      4 * (x.units * oneInGrains) - x.margin * oneInGrains := by rw [Nat.sub_mul, Nat.mul_assoc]
  have hhigh : (4 * x.units + 2 * x.gap) * oneInGrains =
      4 * (x.units * oneInGrains) + 2 * (x.gap * oneInGrains) := by ring
  have hreads : x.readsBack c =
      if x.significand % 2 = 0 then
        (4 * x.units - x.margin) * oneInGrains ≤ 4 * c * one &&
          4 * c * one ≤ (4 * x.units + 2 * x.gap) * oneInGrains
      else
        (4 * x.units - x.margin) * oneInGrains < 4 * c * one &&
          4 * c * one < (4 * x.units + 2 * x.gap) * oneInGrains := by
    rw [readsBack, margin, gap, Nat.one_shiftLeft]
  rw [hreads, hlow, hhigh, Nat.mul_assoc]
  split
  · rename_i heven
    rw [Bool.and_eq_true, decide_eq_true_eq, decide_eq_true_eq]
    constructor
    · rintro ⟨hl, hh⟩
      exact ⟨by omega, hh, by omega⟩
    · intro h
      have hlower := h.lower
      exact ⟨by omega, h.upper⟩
  · rename_i hodd
    -- An odd significand is at least one, so the lower end is not below zero.
    have hend : x.margin * oneInGrains ≤ 4 * (x.units * oneInGrains) := by
      have hgap : x.gap ≤ x.units := by
        rw [units_eq]
        exact Nat.le_mul_of_pos_left _ (by omega)
      rw [← Nat.mul_assoc]
      exact Nat.mul_le_mul_right _ (by have := x.margin_le; omega)
    rw [Bool.and_eq_true, decide_eq_true_eq, decide_eq_true_eq]
    constructor
    · rintro ⟨hl, hh⟩
      exact ⟨by omega, by omega, fun _ => ⟨by omega, hh⟩⟩
    · intro h
      have hstrict := h.strict (by omega)
      exact ⟨by omega, hstrict.2⟩

/-- Where one neighbour on the grid reads back, it is taken. Where both do, one of them
is, be it the nearer one or that of a tie. -/
theorem neighbour?_cases (tie : Tie) (x : Binary64) (step : Nat) :
    let low := x.units * oneInGrains / (one * step)
    (x.neighbour? tie step = some low ∧ x.readsBack (low * step)) ∨
      (x.neighbour? tie step = some (low + 1) ∧ x.readsBack ((low + 1) * step)) ∨
      (x.neighbour? tie step = none ∧ x.readsBack (low * step) = false ∧
        x.readsBack ((low + 1) * step) = false) := by
  rw [neighbour?.eq_def]
  dsimp only
  generalize x.units * oneInGrains / (one * step) = low
  generalize Ord.compare (2 * (x.units * oneInGrains % (one * step))) (one * step) = side
  cases hlow : x.readsBack (low * step) <;> cases hhigh : x.readsBack ((low + 1) * step)
  · exact .inr (.inr ⟨rfl, rfl, rfl⟩)
  · exact .inr (.inl ⟨rfl, rfl⟩)
  · exact .inl ⟨rfl, rfl⟩
  · rcases Nat.mod_two_eq_zero_or_one low with hparity | hparity <;>
      cases side <;> cases tie <;> simp_all

theorem readsBack_of_neighbour? {tie : Tie} {x : Binary64} {step c : Nat}
    (h : x.neighbour? tie step = some c) : x.readsBack (c * step) := by
  rcases neighbour?_cases tie x step with ⟨hc, hreads⟩ | ⟨hc, hreads⟩ | ⟨hc, -⟩
  · rw [hc] at h
    cases h
    exact hreads
  · rw [hc] at h
    cases h
    exact hreads
  · rw [hc] at h
    cases h

theorem isSome_neighbour? {tie : Tie} {x : Binary64} {step : Nat}
    (h : x.readsBack (x.units * oneInGrains / (one * step) * step) ∨
      x.readsBack ((x.units * oneInGrains / (one * step) + 1) * step)) :
    (x.neighbour? tie step).isSome := by
  rcases neighbour?_cases tie x step with ⟨hc, -⟩ | ⟨hc, -⟩ | ⟨-, hlow, hhigh⟩
  · rw [hc]
    rfl
  · rw [hc]
    rfl
  · rw [hlow, hhigh] at h
    simp at h

/-- On a grid whose step is less than a `10 ^ 16`-th of the number, one of the two
neighbours reads back. Below the least significand of a scale, where the number reaches
only half as far, the upper one does. -/
theorem isSome_neighbour?_of_fine {tie : Tie} {x : Binary64} {step : Nat} (hstep : 0 < step)
    (hfine : one * step * 10 ^ 16 ≤ x.units * oneInGrains) : (x.neighbour? tie step).isSome := by
  refine isSome_neighbour? ?_
  rw [readsBack_iff, readsBack_iff]
  have hpos : 0 < one * step := Nat.mul_pos one_pos hstep
  have hdiv := Nat.div_add_mod' (x.units * oneInGrains) (one * step)
  have hmod := Nat.mod_lt (x.units * oneInGrains) hpos
  generalize x.units * oneInGrains / (one * step) = low at hdiv
  generalize x.units * oneInGrains % (one * step) = rest at hdiv hmod
  have hlow : low * step * one = low * (one * step) := by ring
  have hhigh : (low + 1) * step * one = low * (one * step) + one * step := by ring
  have hvalue : x.units * oneInGrains = x.significand * (x.gap * oneInGrains) := by
    rw [units_eq, Nat.mul_assoc]
  have hgap : 0 < x.gap * oneInGrains := Nat.mul_pos x.gap_pos oneInGrains_pos
  have hsmall {k : Nat} (hk : x.significand < k) :
      one * step * 10 ^ 16 < k * (x.gap * oneInGrains) := by
    refine Nat.lt_of_le_of_lt hfine ?_
    rw [hvalue]
    exact Nat.mul_lt_mul_of_pos_right hk hgap
  have hbelow : one * step < x.gap * oneInGrains := by
    have hlt := hsmall x.significand_lt
    rw [leadingBit] at hlt
    omega
  by_cases hleast : x.significand = leadingBit && x.scale ≠ 0
  · right
    have hsignificand : x.significand = leadingBit := by
      rw [Bool.and_eq_true, decide_eq_true_eq] at hleast
      exact hleast.1
    have hhalf : 2 * (one * step) < x.gap * oneInGrains := by
      have hlt := hsmall (k := leadingBit + 1) (by omega)
      rw [leadingBit] at hlt
      omega
    rw [hhigh]
    exact ⟨by omega, by omega, fun _ => ⟨by omega, by omega⟩⟩
  · have hmargin : x.margin * oneInGrains = 2 * (x.gap * oneInGrains) := by
      rw [margin, if_neg hleast, Nat.mul_assoc]
    by_cases hnear : 2 * rest ≤ one * step
    · left
      rw [hlow]
      exact ⟨by omega, by omega, fun _ => ⟨by omega, by omega⟩⟩
    · right
      rw [hhigh]
      exact ⟨by omega, by omega, fun _ => ⟨by omega, by omega⟩⟩

/-! ## Whole numbers -/

/-- Only a whole number covers a whole number: each one is a multiple of the gap, or the
gap is a multiple of one. -/
theorem Covers.whole {x : Binary64} {n : Nat} (h : x.Covers (n * one) 1) : x.units % one = 0 := by
  rcases Nat.lt_or_ge x.scale 1074 with hlt | hle
  · have hgap : one = 2 ^ (1074 - x.scale) * x.gap := by
      rw [one_eq, gap, ← Nat.pow_add, Nat.sub_add_cancel (Nat.le_of_lt hlt)]
    have hpoint : n * one = n * 2 ^ (1074 - x.scale) * x.gap := by
      rw [Nat.mul_assoc, ← hgap]
    obtain ⟨hlow, hhigh, -⟩ := h.halves
    rw [Nat.one_mul, hpoint] at hlow hhigh
    have hsignificand : x.significand = n * 2 ^ (1074 - x.scale) :=
      Nat.le_antisymm (le_of_half x.gap_pos hlow) (le_of_half x.gap_pos hhigh)
    rw [units_eq, hsignificand, ← hpoint, Nat.mul_mod_left]
  · have hgap : x.gap = 2 ^ (x.scale - 1074) * one := by
      rw [one_eq, gap, ← Nat.pow_add, Nat.sub_add_cancel hle]
    rw [units_eq, hgap, ← Nat.mul_assoc, Nat.mul_mod_left]

/-- A decimal without places that reads back, as a whole number. -/
theorem covers_whole_of_exponent {x : Binary64} {d : Decimal} (hd : 0 ≤ d.exponent)
    (h : x.Covers (d.grains * one) oneInGrains) :
    x.Covers (d.digits * 10 ^ d.exponent.toNat * one) 1 := by
  have hgrains : d.grains * one = d.digits * 10 ^ d.exponent.toNat * one * oneInGrains := by
    have hexponent : (d.exponent + grainPlaces).toNat = d.exponent.toNat + grainPlaces := by omega
    rw [Decimal.grains, hexponent, Nat.pow_add, oneInGrains_eq]
    ring
  rwa [hgrains, ← Nat.one_mul oneInGrains, ← Nat.mul_assoc, Nat.mul_one,
    covers_mul_iff oneInGrains_pos] at h

/-- A whole number stands on the grid of whole numbers itself. -/
theorem isSome_neighbour?_whole {x : Binary64} (hwhole : x.units % one = 0) (tie : Tie) :
    (x.neighbour? tie oneInGrains).isSome := by
  have hunits := Nat.div_add_mod' x.units one
  rw [hwhole, Nat.add_zero] at hunits
  refine isSome_neighbour? (.inl ?_)
  have hlow : x.units * oneInGrains / (one * oneInGrains) = x.units / one :=
    Nat.mul_div_mul_right _ _ oneInGrains_pos
  have hpoint : x.units / one * oneInGrains * one = x.units * oneInGrains := by
    rw [Nat.mul_right_comm, hunits]
  rw [hlow, readsBack_iff, hpoint]
  have hself := (covers_mul_iff oneInGrains_pos).mpr x.covers_self
  rwa [Nat.one_mul] at hself

/-! ## The search -/

/-- How many digits a number has down to a grain. -/
def grainLength (x : Binary64) : Nat := (Nat.toDigits 10 (x.units * oneInGrains / one)).length

variable {x : Binary64} (hx : x.units ≠ 0)

include hx

theorem pow_le_grains : 10 ^ 16 ≤ x.units * oneInGrains / one := by
  have hfine : 10 ^ 16 * one ≤ oneInGrains := by decide +kernel
  rw [Nat.le_div_iff_mul_le one_pos]
  exact Nat.le_trans hfine (Nat.le_mul_of_pos_left _ (Nat.pos_of_ne_zero hx))

theorem seventeen_le_grainLength : 17 ≤ x.grainLength := by
  have hlong := pow_le_grains hx
  by_contra hlt
  have hshort := (Nat.length_toDigits_le_iff (b := 10) (k := 16) (by decide) (by decide)).mp
    (Nat.le_of_lt_succ (Nat.lt_of_not_le hlt))
  omega

/-- Seventeen digits are enough. -/
theorem isSome_neighbour?_seventeen (tie : Tie) :
    (x.neighbour? tie (10 ^ (x.grainLength - 17))).isSome := by
  have hlength := seventeen_le_grainLength hx
  refine isSome_neighbour?_of_fine (Nat.pow_pos (by decide)) ?_
  have hgrains : x.units * oneInGrains / one ≠ 0 :=
    Nat.ne_of_gt (Nat.lt_of_lt_of_le (by decide) (pow_le_grains hx))
  have hleading : 10 ^ (x.grainLength - 1) ≤ x.units * oneInGrains / one :=
    pow_length_toDigits_le hgrains
  rw [Nat.le_div_iff_mul_le one_pos] at hleading
  rw [Nat.mul_assoc, ← Nat.pow_add, Nat.mul_comm]
  rwa [show x.grainLength - 17 + 16 = x.grainLength - 1 by omega]

/-- The search ends at the first grid that has a decimal which reads back; a ten is
written with one digit less. -/
theorem exists_shortest (tie : Tie) :
    ∃ size c, 1 ≤ size ∧ size ≤ 17 ∧
      x.neighbour? tie (10 ^ (x.grainLength - size)) = some c ∧
      (∀ size', 1 ≤ size' → size' < size →
        x.neighbour? tie (10 ^ (x.grainLength - size')) = none) ∧
      x.shortest tie =
        if c = 10 then ⟨1, (x.grainLength - size : Nat) - grainPlaces + 1⟩
        else ⟨c, (x.grainLength - size : Nat) - grainPlaces⟩ := by
  let onGrid (size : Nat) : Option Decimal :=
    (x.neighbour? tie (10 ^ (x.grainLength - size))).map fun c =>
      ⟨c, (x.grainLength - size : Nat) - grainPlaces⟩
  have hnone {size : Nat} : onGrid size = none ↔
      x.neighbour? tie (10 ^ (x.grainLength - size)) = none := Option.map_eq_none_iff
  have hsome : ((List.range' 1 17).findSome? onGrid).isSome := by
    rw [List.findSome?_isSome_iff]
    refine ⟨17, by decide, ?_⟩
    rw [Option.isSome_map]
    exact isSome_neighbour?_seventeen hx tie
  obtain ⟨d, hd⟩ := Option.isSome_iff_exists.mp hsome
  obtain ⟨before, size, after, hrange, hsize, hbefore⟩ := List.findSome?_eq_some_iff.mp hd
  obtain ⟨c, hc, rfl⟩ := Option.map_eq_some_iff.mp hsize
  have hmem : size ∈ List.range' 1 17 := by
    rw [hrange]
    simp
  have hsorted : (before ++ size :: after).Pairwise (· < ·) := hrange ▸ List.pairwise_lt_range'
  have hbounds := List.mem_range'_1.mp hmem
  refine ⟨size, c, by omega, by omega, hc, fun size' hone hlt => ?_, ?_⟩
  · have hmem' : size' ∈ before ++ size :: after := by
      rw [← hrange, List.mem_range'_1]
      omega
    rw [List.pairwise_append, List.pairwise_cons] at hsorted
    rcases List.mem_append.mp hmem' with hin | hin
    · exact hnone.mp (hbefore size' hin)
    · rcases List.mem_cons.mp hin with rfl | hin
      · omega
      · have := hsorted.2.1.1 size' hin
        omega
  · show (let found := ((List.range' 1 17).findSome? onGrid).getD ⟨0, 0⟩
      if found.digits = 10 then (⟨1, found.exponent + 1⟩ : Decimal) else found) = _
    rw [hd]
    rfl

/-- The shortest decimal has no digit below a grain, and reads back. -/
theorem covers_shortest (tie : Tie) :
    -(grainPlaces : Int) ≤ (x.shortest tie).exponent ∧
      x.Covers ((x.shortest tie).grains * one) oneInGrains := by
  obtain ⟨size, c, -, -, hc, -, hshortest⟩ := exists_shortest hx tie
  have hreads := (readsBack_iff x _).mp (readsBack_of_neighbour? hc)
  rw [hshortest]
  split
  · rename_i hten
    have hexponent : ((x.grainLength - size : Nat) - (grainPlaces : Int) + 1 + grainPlaces).toNat =
        x.grainLength - size + 1 := by omega
    refine ⟨by dsimp only; omega, ?_⟩
    rw [hten] at hreads
    rw [Decimal.grains]
    dsimp only
    rwa [hexponent, Nat.pow_succ, Nat.one_mul, Nat.mul_comm (10 ^ _)]
  · have hexponent : ((x.grainLength - size : Nat) - (grainPlaces : Int) + grainPlaces).toNat =
        x.grainLength - size := by omega
    refine ⟨by dsimp only; omega, ?_⟩
    rw [Decimal.grains]
    dsimp only
    rwa [hexponent]

/-- The shortest decimal has no places behind the point exactly if the number is whole. -/
theorem exponent_shortest_iff (tie : Tie) :
    0 ≤ (x.shortest tie).exponent ↔ x.units % one = 0 := by
  constructor
  · intro hexponent
    exact (covers_whole_of_exponent hexponent (covers_shortest hx tie).2).whole
  · intro hwhole
    obtain ⟨size, c, -, hsize, -, hfirst, hshortest⟩ := exists_shortest hx tie
    have hunits := Nat.div_add_mod' x.units one
    rw [hwhole, Nat.add_zero] at hunits
    have hgrains : x.units * oneInGrains / one = x.units / one * oneInGrains := by
      rw [← hunits, Nat.mul_right_comm, Nat.mul_div_cancel _ one_pos, Nat.mul_div_cancel _ one_pos]
    have hlength : grainPlaces < x.grainLength := by
      have hquotient : x.units / one ≠ 0 := fun hzero => hx <| by
        rw [← hunits, hzero, Nat.zero_mul]
      have hlong : 10 ^ grainPlaces ≤ x.units / one * oneInGrains := by
        rw [oneInGrains_eq]
        exact Nat.le_mul_of_pos_left _ (Nat.pos_of_ne_zero hquotient)
      by_contra hlt
      have hshort := (Nat.length_toDigits_le_iff (b := 10) (k := grainPlaces) (by decide)
        (by decide)).mp (Nat.le_of_not_lt hlt)
      rw [hgrains] at hshort
      omega
    have hfits : grainPlaces ≤ x.grainLength - size := by
      by_contra hlt
      have hsome := isSome_neighbour?_whole hwhole tie
      have hnone := hfirst (x.grainLength - grainPlaces) (by omega) (by omega)
      rw [Nat.sub_sub_self (Nat.le_of_lt hlength), ← oneInGrains_eq] at hnone
      rw [hnone] at hsome
      cases hsome
    rw [hshortest]
    split <;> dsimp only <;> omega

end Binary64

end Datasheet
