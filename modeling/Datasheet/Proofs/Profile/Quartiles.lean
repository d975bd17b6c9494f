import Datasheet.Proofs.Binary64.Monotone
import Datasheet.Proofs.Profile.Indices
import Datasheet.Proofs.Profile.RowOrder

/-!
# Quartiles in the range of the values

A quartile lies some quarters of the way from one of the sorted values to the next one. The
way is rounded, and so is the part of it, but it leads no further than to the upper value
(`InOrder.key_between_le`), and further with more quarters (`InOrder.key_between_mono`).

That holds as long as the way is a finite number. Two finite values may be further apart
than that; then the quartile between them is infinite (`InOrder.between_eq_infinity`).
`of?_ordered_iff` says which lists of finite numbers have their quartiles in order.
-/

namespace Datasheet.Summary

open Binary64

/-! ## Between two values -/

/-- The weight of some quarters. -/
def weight (quarters : Nat) : Binary64 := .ofUnits false (quarters * one) 4

theorem isFinite_weight : ∀ k < 4, (weight k).isFinite := by
  decide +kernel

/-- The weights are exact. -/
theorem units_weight : ∀ k < 4, 4 * (weight k).units = k * one := by
  decide +kernel

theorem infinity_mul_weight :
    ∀ k < 4, 0 < k → (infinity false).mul (weight k) = infinity false := by
  decide +kernel

/-- Some quarters of the way from one number to another. -/
def advance (a b : Binary64) (quarters : Nat) : Binary64 := (b.sub a).mul (weight quarters)

/-- The number some quarters of the way from one number to another. -/
def between (a b : Binary64) (quarters : Nat) : Binary64 := a.add (advance a b quarters)

/-- What is finite is multiplied by a weight exactly and then rounded. -/
theorem advance_eq {a b : Binary64} (hfinite : (b.sub a).isFinite) {k : Nat} (hk : k < 4) :
    advance a b k =
      .ofUnits (b.sub a).negative ((b.sub a).units * (weight k).units) one := by
  have hsign : ((b.sub a).negative != (weight k).negative) = (b.sub a).negative := Bool.bne_false _
  rw [advance, mul_eq hfinite (isFinite_weight k hk), hsign]

/-- Finite numbers in order. -/
structure InOrder (a b : Binary64) : Prop where
  lower : a.isFinite
  upper : b.isFinite
  key_le : a.key ≤ b.key

namespace InOrder

variable {a b : Binary64} (h : InOrder a b)
include h

theorem value_le : a.value ≤ b.value := (value_le_iff h.lower h.upper).mpr h.key_le

theorem units_sub : (b.sub a).units = (ofValue (b.value - a.value)).units := by
  refine units_congr ?_
  have hkey := congrArg Int.natAbs (key_sub h.upper h.lower)
  rwa [natAbs_key, natAbs_key] at hkey

/-- The way to a number that is not less is not negative, but perhaps `-0`. -/
theorem units_sub_of_negative (hsign : (b.sub a).negative) : (b.sub a).units = 0 := by
  have hvalue := h.value_le
  have hkey : 0 ≤ (b.sub a).key := by
    rw [key_sub h.upper h.lower]
    exact key_ofValue_mono (v := 0) (by omega)
  rw [key, if_pos hsign] at hkey
  rw [units_eq_zero_iff]
  omega

section Finite

variable (hfinite : (b.sub a).isFinite) {k : Nat} (hk : k < 4)
include hfinite hk

/-- A part of the way is not longer than the way was before it was rounded. -/
theorem advance_le : (advance a b k).isFinite ∧
    ((advance a b k).units : Int) ≤ b.value - a.value := by
  have hvalue := h.value_le
  have hround : (ofValue (b.value - a.value)).isFinite := by
    rwa [isFinite_iff_key, ← key_sub h.upper h.lower, ← isFinite_iff_key]
  obtain ⟨x, hx, hfloor, hthree⟩ := exists_floor hround
  -- Three quarters of the rounded way are no more than the way is cut down to.
  have hproduct : (b.sub a).units * (weight k).units ≤ x.units * one := by
    refine Nat.le_of_mul_le_mul_left ?_ (show 0 < 4 by decide)
    calc 4 * ((b.sub a).units * (weight k).units)
      _ = (b.sub a).units * (4 * (weight k).units) := by ring
      _ = k * (b.sub a).units * one := by rw [units_weight k hk]; ring
      _ ≤ 3 * (b.sub a).units * one := by
        refine Nat.mul_le_mul_right _ (Nat.mul_le_mul_right _ ?_)
        omega
      _ ≤ 4 * x.units * one := by
        rw [h.units_sub]
        exact Nat.mul_le_mul_right _ hthree
      _ = 4 * (x.units * one) := Nat.mul_assoc _ _ _
  have hword : (advance a b k).magnitude ≤ x.magnitude := by
    rw [advance_eq hfinite hk]
    exact magnitude_ofUnits_le hx Binary64.one_pos hproduct _
  have hpart : (advance a b k).isFinite := by
    rw [isFinite, decide_eq_true_eq] at hx ⊢
    omega
  have hunits := (units_le_iff hpart hx).mpr hword
  exact ⟨hpart, by omega⟩

theorem value_advance : (advance a b k).value = (advance a b k).units := by
  cases hsign : (b.sub a).negative with
  | false =>
    have hpositive : (advance a b k).negative = false := by
      rw [advance_eq hfinite hk, negative_ofUnits, hsign]
    rw [value, hpositive]
    rfl
  | true =>
    -- The way is `-0`, and so is each part of it.
    have hunits : (advance a b k).units = 0 := by
      rw [advance_eq hfinite hk, h.units_sub_of_negative hsign, hsign, Nat.zero_mul]
      decide +kernel
    rw [value, hunits]
    split <;> rfl

theorem key_between : (between a b k).key = (ofValue (a.value + (advance a b k).units)).key := by
  rw [between, key_add h.lower (h.advance_le hfinite hk).1, h.value_advance hfinite hk]

theorem le_key_between : a.key ≤ (between a b k).key := by
  rw [h.key_between hfinite hk, ← key_ofValue_value h.lower]
  exact key_ofValue_mono (by omega)

theorem key_between_le : (between a b k).key ≤ b.key := by
  rw [h.key_between hfinite hk, ← key_ofValue_value h.upper]
  have hpart := (h.advance_le hfinite hk).2
  exact key_ofValue_mono (by omega)

/-- More quarters lead further. -/
theorem key_between_mono {j : Nat} (hjk : j ≤ k) : (between a b j).key ≤ (between a b k).key := by
  have hj : j < 4 := by omega
  have hweight : (weight j).units ≤ (weight k).units := by
    have hexact := units_weight j hj
    have hexact' := units_weight k hk
    have := Nat.mul_le_mul_right one hjk
    omega
  have hunits : (advance a b j).units ≤ (advance a b k).units := by
    rw [units_le_iff (h.advance_le hfinite hj).1 (h.advance_le hfinite hk).1,
      advance_eq hfinite hj, advance_eq hfinite hk]
    exact magnitude_ofUnits_mono (Nat.mul_le_mul_left _ hweight) _ _ _
  rw [h.key_between hfinite hj, h.key_between hfinite hk]
  exact key_ofValue_mono (by omega)

end Finite

/-- Numbers too far apart have nothing but infinity between them. -/
theorem between_eq_infinity (hfar : ¬ (b.sub a).isFinite) {k : Nat} (hk : k < 4) (hpos : 0 < k) :
    between a b k = infinity false := by
  have hvalue := h.value_le
  have hsub : b.sub a = infinity false := by
    rw [sub_eq_infinity h.upper h.lower hfar, decide_eq_false (by omega)]
  rw [between, advance, hsub, infinity_mul_weight k hk hpos, add, not_isNaN_of_isFinite h.lower,
    isInfinite_eq_false h.lower]
  rfl

end InOrder

/-! ## Between sorted values -/

/-- The value at a position. -/
def nth (sorted : List Binary64) (i : Nat) : Binary64 := sorted[i]?.getD .nan

theorem interpolate_eq (sorted : List Binary64) (rank : Nat) : interpolate sorted rank =
    between (nth sorted (rank / 4)) (nth sorted ((rank + 3) / 4)) (rank % 4) := rfl

/-- How far apart, in units, the two values are that a rank lies between. -/
def span (sorted : List Binary64) (rank : Nat) : Int :=
  (nth sorted ((rank + 3) / 4)).value - (nth sorted (rank / 4)).value

/-- Up to four quarters of the way from the first value to the last there is a value above. -/
theorem rank_lt {sorted : List Binary64} (hne : sorted ≠ []) {k : Nat} (hk : k ≤ 4) :
    (k * (sorted.length - 1) + 3) / 4 < sorted.length := by
  have hlength := List.length_pos_iff.mpr hne
  have hrank := Nat.mul_le_mul_right (sorted.length - 1) hk
  omega

/-- Finite numbers in ascending order. -/
structure Ascending (sorted : List Binary64) : Prop where
  finite : ∀ x ∈ sorted, x.isFinite
  ordered : sorted.Pairwise fun x y => x.key ≤ y.key

/-- An ascending list of the values is the sorted one. -/
theorem sort_eq {xs ys : List Binary64} (hperm : ys.Perm xs)
    (hsorted : ys.Pairwise fun x y => x.totalKey ≤ y.totalKey) : sort xs = ys := by
  rw [← sort_perm hperm]
  exact List.mergeSort_of_pairwise (hsorted.imp decide_eq_true)

theorem ascending_sort {xs : List Binary64} (hfinite : ∀ x ∈ xs, x.isFinite) :
    Ascending (sort xs) :=
  ⟨fun x hx => hfinite x (List.mem_mergeSort.mp hx), (pairwise_sort xs).imp key_le_of_totalKey_le⟩

namespace Ascending

variable {sorted : List Binary64} (h : Ascending sorted)
include h

theorem isFinite_nth {i : Nat} (hi : i < sorted.length) : (nth sorted i).isFinite := by
  rw [nth, List.getElem?_eq_getElem hi]
  exact h.finite _ (List.getElem_mem hi)

theorem inOrder_nth {i j : Nat} (hij : i ≤ j) (hj : j < sorted.length) :
    InOrder (nth sorted i) (nth sorted j) := by
  refine ⟨h.isFinite_nth (by omega), h.isFinite_nth hj, ?_⟩
  rcases Nat.lt_or_eq_of_le hij with hlt | rfl
  · have hi : i < sorted.length := by omega
    rw [nth, nth, List.getElem?_eq_getElem hi, List.getElem?_eq_getElem hj]
    exact List.pairwise_iff_getElem.mp h.ordered i j hi hj hlt
  · exact Int.le_refl _

section Rank

variable {rank : Nat} (hrank : (rank + 3) / 4 < sorted.length)
include hrank

theorem inOrder_rank : InOrder (nth sorted (rank / 4)) (nth sorted ((rank + 3) / 4)) :=
  h.inOrder_nth (by omega) hrank

/-- The way between the two values of a rank is finite if it is short of the overflow. -/
theorem isFinite_sub_nth :
    ((nth sorted ((rank + 3) / 4)).sub (nth sorted (rank / 4))).isFinite ↔
      span sorted rank < overflow := by
  have hpair := h.inOrder_rank hrank
  have hvalue := hpair.value_le
  rw [isFinite_sub hpair.upper hpair.lower, span]
  omega

theorem key_interpolate (hspan : span sorted rank < overflow) :
    (nth sorted (rank / 4)).key ≤ (interpolate sorted rank).key ∧
      (interpolate sorted rank).key ≤ (nth sorted ((rank + 3) / 4)).key := by
  have hpair := h.inOrder_rank hrank
  have hfinite := (h.isFinite_sub_nth hrank).mpr hspan
  have hquarters := Nat.mod_lt rank (show 0 < 4 by decide)
  exact ⟨hpair.le_key_between hfinite hquarters, hpair.key_between_le hfinite hquarters⟩

theorem key_interpolate_mono (hspan : span sorted rank < overflow) {rank' : Nat}
    (hle : rank' ≤ rank) (hspan' : span sorted rank' < overflow) :
    (interpolate sorted rank').key ≤ (interpolate sorted rank).key := by
  rcases Nat.lt_or_ge (rank / 4) ((rank' + 3) / 4) with hsame | hapart
  · -- Both ranks lie between the same two values.
    have hlower : rank' / 4 = rank / 4 := by omega
    have hupper : (rank' + 3) / 4 = (rank + 3) / 4 := by omega
    rw [interpolate_eq, interpolate_eq, hlower, hupper]
    exact (h.inOrder_rank hrank).key_between_mono ((h.isFinite_sub_nth hrank).mpr hspan)
      (Nat.mod_lt _ (by decide)) (by omega)
  · calc (interpolate sorted rank').key
      _ ≤ (nth sorted ((rank' + 3) / 4)).key := (h.key_interpolate (by omega) hspan').2
      _ ≤ (nth sorted (rank / 4)).key := (h.inOrder_nth hapart (by omega)).key_le
      _ ≤ (interpolate sorted rank).key := (h.key_interpolate hrank hspan).1

theorem interpolate_eq_infinity (hfar : ¬ span sorted rank < overflow) :
    interpolate sorted rank = infinity false := by
  -- A rank at a value does not lie between two.
  have hquarters : 0 < rank % 4 := by
    by_contra hwhole
    have hindex : (rank + 3) / 4 = rank / 4 := by omega
    rw [span, hindex, Int.sub_self] at hfar
    exact hfar (by decide +kernel)
  rw [interpolate_eq]
  refine (h.inOrder_rank hrank).between_eq_infinity ?_ (Nat.mod_lt _ (by decide)) hquarters
  rwa [h.isFinite_sub_nth hrank]

end Rank

/-! ## Quartiles -/

section Quartile

variable (hne : sorted ≠ []) {k : Nat} (hk : k ≤ 4)
include hne hk

theorem key_quartile (hspan : span sorted (k * (sorted.length - 1)) < overflow) :
    (nth sorted 0).key ≤ (quartile sorted k).key ∧
      (quartile sorted k).key ≤ (nth sorted (sorted.length - 1)).key := by
  have hrank := rank_lt hne hk
  have hneighbours := h.key_interpolate hrank hspan
  have hleast := h.inOrder_nth (Nat.zero_le (k * (sorted.length - 1) / 4)) (by omega)
  have hgreatest := h.inOrder_nth (Nat.le_sub_one_of_lt hrank) (by omega)
  exact ⟨Int.le_trans hleast.key_le hneighbours.1, Int.le_trans hneighbours.2 hgreatest.key_le⟩

theorem isFinite_quartile :
    (quartile sorted k).isFinite ↔ span sorted (k * (sorted.length - 1)) < overflow := by
  have hlength := List.length_pos_iff.mpr hne
  constructor
  · intro hfinite
    by_contra hfar
    rw [quartile, h.interpolate_eq_infinity (rank_lt hne hk) hfar] at hfinite
    exact absurd hfinite (by decide)
  · intro hspan
    have hkey := h.key_quartile hne hk hspan
    exact isFinite_of_key_le (h.isFinite_nth hlength) (h.isFinite_nth (by omega)) hkey.1 hkey.2

theorem le_quartile (hspan : span sorted (k * (sorted.length - 1)) < overflow) :
    (nth sorted 0).le (quartile sorted k) ∧
      (quartile sorted k).le (nth sorted (sorted.length - 1)) := by
  have hlength := List.length_pos_iff.mpr hne
  have hfinite := (h.isFinite_quartile hne hk).mpr hspan
  have hkey := h.key_quartile hne hk hspan
  exact ⟨le_of_key_le (h.isFinite_nth hlength) hfinite hkey.1,
    le_of_key_le hfinite (h.isFinite_nth (by omega)) hkey.2⟩

theorem quartile_le_quartile {j : Nat} (hjk : j ≤ k)
    (hspan : span sorted (j * (sorted.length - 1)) < overflow)
    (hspan' : span sorted (k * (sorted.length - 1)) < overflow) :
    (quartile sorted j).le (quartile sorted k) :=
  le_of_key_le ((h.isFinite_quartile hne (by omega)).mpr hspan)
    ((h.isFinite_quartile hne hk).mpr hspan')
    (h.key_interpolate_mono (rank_lt hne hk) hspan' (Nat.mul_le_mul_right _ hjk) hspan)

end Quartile

end Ascending

def quartiles (s : Summary) : List Binary64 := [s.quartile1, s.median, s.quartile3]

/-- The quartiles are finite and in order, between the extremes. -/
structure Ordered (s : Summary) : Prop where
  min_le : s.min.le s.quartile1
  le_median : s.quartile1.le s.median
  median_le : s.median.le s.quartile3
  le_max : s.quartile3.le s.max
  finite : ∀ q ∈ s.quartiles, q.isFinite

/-- The two sorted values that a quartile lies between are never so far apart that their
difference is no finite number. -/
def Near (sorted : List Binary64) : Prop :=
  ∀ k ∈ [1, 2, 3], span sorted (k * (sorted.length - 1)) < overflow

instance (sorted : List Binary64) : Decidable (Near sorted) :=
  inferInstanceAs (Decidable (∀ k ∈ [1, 2, 3], span sorted (k * (sorted.length - 1)) < overflow))

/-- The extremes and quartiles of a summary are taken from the sorted values. -/
theorem exists_sorted {xs : List Binary64} (hne : xs ≠ []) : ∃ s, of? xs = some s ∧
    s.min = nth (sort xs) 0 ∧ s.max = nth (sort xs) ((sort xs).length - 1) ∧
    s.quartiles = [1, 2, 3].map (quartile (sort xs)) := by
  rw [of?]
  obtain ⟨y, ys, hcons⟩ := List.exists_cons_of_ne_nil (sort_ne_nil hne)
  rw [hcons]
  refine ⟨_, rfl, rfl, ?_, rfl⟩
  rw [nth, ← List.getLast?_eq_getElem?, List.getLast?_cons, ← List.getLastD_eq_getLast?]
  rfl

/-- There is a summary of each list of finite numbers that is not empty. Its quartiles are
finite, in order and in the range of the numbers exactly if none of them lies between two
numbers that are too far apart. A quartile that does is infinite, and greater than all of
the numbers. -/
theorem of?_ordered_iff {xs : List Binary64} (hne : xs ≠ []) (hfinite : ∀ x ∈ xs, x.isFinite) :
    ∃ s, of? xs = some s ∧ (s.Ordered ↔ Near (sort xs)) ∧
      ∀ q ∈ s.quartiles, (s.min.le q ∧ q.le s.max) ∨ q = infinity false := by
  have h := ascending_sort hfinite
  have hsorted := sort_ne_nil hne
  have hquarters : ∀ k ∈ [1, 2, 3], k ≤ 4 := by decide
  obtain ⟨s, hs, hmin, hmax, hquartiles⟩ := exists_sorted hne
  refine ⟨s, hs, ⟨fun hordered k hk => ?_, fun hnear => ?_⟩, ?_⟩
  · rw [← h.isFinite_quartile hsorted (hquarters k hk)]
    refine hordered.finite _ ?_
    rw [hquartiles]
    exact List.mem_map_of_mem hk
  · have h1 := hnear 1 (by decide)
    have h2 := hnear 2 (by decide)
    have h3 := hnear 3 (by decide)
    have hfinite : ∀ q ∈ s.quartiles, q.isFinite := by
      rw [hquartiles, List.forall_mem_map]
      exact fun k hk => (h.isFinite_quartile hsorted (hquarters k hk)).mpr (hnear k hk)
    injection hquartiles with hquartile1 htail
    injection htail with hmedian htail
    injection htail with hquartile3
    refine ⟨?_, ?_, ?_, ?_, hfinite⟩
    · rw [hmin, hquartile1]
      exact (h.le_quartile hsorted (by decide) h1).1
    · rw [hquartile1, hmedian]
      exact h.quartile_le_quartile hsorted (by decide) (by decide) h1 h2
    · rw [hmedian, hquartile3]
      exact h.quartile_le_quartile hsorted (by decide) (by decide) h2 h3
    · rw [hquartile3, hmax]
      exact (h.le_quartile hsorted (by decide) h3).2
  · rw [hquartiles, List.forall_mem_map, hmin, hmax]
    intro k hk
    by_cases hspan : span (sort xs) (k * ((sort xs).length - 1)) < overflow
    · exact .inl (h.le_quartile hsorted (hquarters k hk) hspan)
    · exact .inr (h.interpolate_eq_infinity (rank_lt hsorted (hquarters k hk)) hspan)

/-- Numbers of both signs and far apart, in no order, with `-0` and the least magnitude. -/
def scattered : List Binary64 :=
  [.ofDecimal false 17 307, zero true, .ofDecimal false 5 (-324), .ofInt (-3)]

theorem of?_scattered : scattered ≠ [] ∧ (∀ x ∈ scattered, x.isFinite) ∧
    ∃ s, of? scattered = some s ∧ s.Ordered := by
  have hne : scattered ≠ [] := by decide
  have hfinite : ∀ x ∈ scattered, x.isFinite := by decide +kernel
  have hnear : Near (sort scattered) := by
    have hsort : sort scattered =
        [.ofInt (-3), zero true, .ofDecimal false 5 (-324), .ofDecimal false 17 307] :=
      sort_eq (by decide +kernel) (by decide +kernel)
    rw [hsort]
    decide +kernel
  obtain ⟨s, hs, hordered, -⟩ := of?_ordered_iff hne hfinite
  exact ⟨hne, hfinite, s, hs, hordered.mpr hnear⟩

/-- Two finite numbers whose difference is too great. -/
def distant : List Binary64 := [.ofDecimal true 1 308, .ofDecimal false 1 308]

/-- All quartiles of the two are infinite, so not in the range of the numbers. -/
theorem not_ordered_distant : distant ≠ [] ∧ (∀ x ∈ distant, x.isFinite) ∧
    ∃ s, of? distant = some s ∧ ¬ s.Ordered ∧
      ∀ q ∈ s.quartiles, q = infinity false ∧ ¬ q.le s.max := by
  have hne : distant ≠ [] := by decide
  have hsort : sort distant = distant := sort_eq (.refl _) (by decide +kernel)
  have hinfinite : ∀ q ∈ [1, 2, 3].map (quartile distant),
      q = infinity false ∧ ¬ q.le (nth distant (distant.length - 1)) := by
    decide +kernel
  obtain ⟨s, hs, -, hmax, hquartiles⟩ := exists_sorted hne
  rw [hsort] at hmax hquartiles
  rw [← hmax, ← hquartiles] at hinfinite
  refine ⟨hne, by decide +kernel, s, hs, fun hordered => ?_, hinfinite⟩
  have hfinite := hordered.finite _ List.mem_cons_self
  rw [(hinfinite _ List.mem_cons_self).1] at hfinite
  exact absurd hfinite (by decide)

end Datasheet.Summary
