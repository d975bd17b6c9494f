import Datasheet.Profile.Frequency
import Mathlib.Data.Finset.Card
import Mathlib.Data.List.Nodup

/-!
# Counting keys

`distinct` names each key once (`mem_distinct`, `nodup_distinct`), and a ranking counts
the distinct keys by falling count (`pairwise_ranking`). What keys there are and how often
does not depend on their order, so neither do the number of distinct keys
(`perm_distinct`) and the counts of a ranking (`map_snd_ranking_perm`); only which key of
several with one count comes first does.
-/

namespace Datasheet

/-! ## Distinct keys -/

@[simp] theorem mem_distinct {key : String} {keys : List String} :
    key ∈ distinct keys ↔ key ∈ keys := by
  induction keys with
  | nil => rfl
  | cons k keys ih =>
    by_cases hk : key = k
    · simp [distinct, hk]
    · simp [distinct, ih, hk]

theorem nodup_distinct (keys : List String) : (distinct keys).Nodup := by
  induction keys with
  | nil => exact List.nodup_nil
  | cons k keys ih =>
    refine List.nodup_cons.mpr ⟨fun hk => ?_, ih.filter _⟩
    simp at hk

theorem length_distinct (keys : List String) : (distinct keys).length = keys.toFinset.card := by
  rw [← List.toFinset_card_of_nodup (nodup_distinct keys)]
  refine congrArg Finset.card (Finset.ext fun key => ?_)
  rw [List.mem_toFinset, List.mem_toFinset, mem_distinct]

theorem perm_distinct {keys keys' : List String} (h : keys'.Perm keys) :
    (distinct keys').Perm (distinct keys) := by
  refine (List.perm_ext_iff_of_nodup (nodup_distinct _) (nodup_distinct _)).mpr fun key => ?_
  rw [mem_distinct, mem_distinct, h.mem_iff]

/-! ## Rankings -/

theorem perm_ranking (keys : List String) :
    (ranking keys).Perm ((distinct keys).map fun key => (key, keys.count key)) :=
  List.mergeSort_perm _ _

theorem mem_ranking {entry : String × Nat} {keys : List String} :
    entry ∈ ranking keys ↔ ∃ key ∈ keys, entry = (key, keys.count key) := by
  rw [(perm_ranking keys).mem_iff, List.mem_map]
  simp [eq_comm]

/-- By falling count is an order that sorting keeps to. -/
theorem falling_trans (a b c : String × Nat) (hab : decide (b.2 ≤ a.2) = true)
    (hbc : decide (c.2 ≤ b.2) = true) : decide (c.2 ≤ a.2) = true := by
  rw [decide_eq_true_eq] at hab hbc ⊢
  omega

theorem falling_total (a b : String × Nat) :
    (decide (b.2 ≤ a.2) || decide (a.2 ≤ b.2)) = true := by
  rw [Bool.or_eq_true, decide_eq_true_eq, decide_eq_true_eq]
  omega

/-- A ranking is by falling count. -/
theorem pairwise_ranking (keys : List String) :
    (ranking keys).Pairwise fun a b => b.2 ≤ a.2 :=
  (List.pairwise_mergeSort falling_trans falling_total _).imp of_decide_eq_true

/-- The same keys in another order have the same counts, which are in one order only. -/
theorem map_snd_ranking_perm {keys keys' : List String} (h : keys'.Perm keys) :
    (ranking keys').map Prod.snd = (ranking keys).map Prod.snd := by
  have hcounts (keys : List String) :
      ((ranking keys).map Prod.snd).Perm ((distinct keys).map keys.count) := by
    have hpairs := (perm_ranking keys).map Prod.snd
    rwa [List.map_map] at hpairs
  have hsorted (keys : List String) : ((ranking keys).map Prod.snd).Pairwise (· ≥ ·) :=
    List.pairwise_map.mpr (pairwise_ranking keys)
  have hsame : keys'.count = keys.count := funext h.count_eq
  have hperm : ((distinct keys').map keys'.count).Perm ((distinct keys).map keys.count) :=
    hsame ▸ (perm_distinct h).map _
  refine List.Perm.eq_of_pairwise (fun a b _ _ hab hba => ?_) (hsorted keys') (hsorted keys)
    ((hcounts keys').trans (hperm.trans (hcounts keys).symm))
  omega

end Datasheet
