import Datasheet.Profile.Basic
import Datasheet.Proofs.Profile.Frequency
import Datasheet.Proofs.Profile.Numeric
import Mathlib.Algebra.BigOperators.Group.List.Lemmas
import Mathlib.Algebra.GroupWithZero.Nat

/-!
# The most frequent values

A ranking lists keys of one count in the order of their first occurrence
(`filter_ranking`), so of two different keys one is always listed before the other, which
`Precedes` says of the keys alone. What a profile names of a column is where its ranking
begins (`isHead_ranking`).

* `Tally.counts_ofKeys`: the keys can be counted in one pass that remembers at which
  position each key is counted;
* `sum_counts`: the counts of a ranking add up to the number of keys;
* `Profile.ofTable_top`: the most frequent values of every column of a table.
-/

namespace Datasheet

/-! ## First occurrences -/

/-- Distinct keys are in the order of their first occurrence. -/
theorem pairwise_distinct (keys : List String) :
    (distinct keys).Pairwise fun key other => keys.idxOf key < keys.idxOf other := by
  induction keys with
  | nil => exact .nil
  | cons k keys ih =>
    have hlater : ∀ key ∈ (distinct keys).filter (· ≠ k), k ≠ key := fun key hkey =>
      (of_decide_eq_true (List.mem_filter.mp hkey).2).symm
    refine List.pairwise_cons.mpr ⟨fun key hkey => ?_, ?_⟩
    · rw [List.idxOf_cons_self, List.idxOf_cons_ne _ (hlater key hkey)]
      exact Nat.succ_pos _
    · refine (ih.filter _).imp_of_mem fun hkey hother hlt => ?_
      rw [List.idxOf_cons_ne _ (hlater _ hkey), List.idxOf_cons_ne _ (hlater _ hother)]
      exact Nat.succ_lt_succ hlt

/-- A key after others is new or one of them. -/
theorem distinct_append (keys : List String) (key : String) :
    distinct (keys ++ [key]) =
      if key ∈ keys then distinct keys else distinct keys ++ [key] := by
  induction keys with
  | nil => rfl
  | cons k keys ih =>
    rw [List.cons_append, distinct, distinct, ih]
    by_cases hk : key = k
    · by_cases hmem : key ∈ keys <;> simp_all
    · by_cases hmem : key ∈ keys <;> simp [hk, hmem]

/-! ## Rankings -/

/-- The key is ranked before the other: it is more frequent, or as frequent and met
first. -/
def Precedes (keys : List String) (key other : String) : Prop :=
  keys.count other < keys.count key ∨
    keys.count other = keys.count key ∧ keys.idxOf key < keys.idxOf other

theorem Precedes.not_precedes {keys : List String} {key other : String}
    (h : Precedes keys key other) : ¬ Precedes keys other key := by
  rw [Precedes] at h ⊢
  omega

instance (keys : List String) (key other : String) : Decidable (Precedes keys key other) :=
  inferInstanceAs (Decidable (_ ∨ _))

/-- Keys of one count keep their order. -/
theorem filter_ranking (keys : List String) (n : Nat) :
    (ranking keys).filter (·.2 = n) =
      ((distinct keys).map fun key => (key, keys.count key)).filter (·.2 = n) := by
  set entries := (distinct keys).map fun key => (key, keys.count key) with hentries
  have hequal : (entries.filter (·.2 = n)).Pairwise fun a b => decide (b.2 ≤ a.2) = true := by
    refine List.pairwise_of_forall_mem_list fun a ha b hb => ?_
    have hacount := of_decide_eq_true (List.mem_filter.mp ha).2
    have hbcount := of_decide_eq_true (List.mem_filter.mp hb).2
    rw [decide_eq_true_eq, hacount, hbcount]
  have hsorted : (entries.filter (·.2 = n)).Sublist (ranking keys) :=
    List.sublist_mergeSort falling_trans falling_total hequal List.filter_sublist
  have hsub : (entries.filter (·.2 = n)).Sublist ((ranking keys).filter (·.2 = n)) := by
    simpa using hsorted.filter (·.2 = n)
  exact (hsub.eq_of_length ((perm_ranking keys).filter _).length_eq.symm).symm

/-- What is listed before another key precedes it. -/
theorem pairwise_ranking_precedes (keys : List String) :
    (ranking keys).Pairwise fun a b => Precedes keys a.1 b.1 := by
  rw [List.pairwise_iff_forall_sublist]
  intro a b hab
  have hle : b.2 ≤ a.2 := List.pairwise_iff_forall_sublist.mp (pairwise_ranking keys) hab
  obtain ⟨key, -, rfl⟩ := mem_ranking.mp (hab.subset List.mem_cons_self)
  obtain ⟨other, -, rfl⟩ := mem_ranking.mp (hab.subset (List.mem_cons_of_mem _ List.mem_cons_self))
  rcases Nat.lt_or_eq_of_le hle with hlt | heq
  · exact .inl hlt
  · -- of one count: in the ranking they are in the order in which they are met
    have hcount : keys.count other = keys.count key := heq
    have hfiltered := hab.filter (·.2 = keys.count key)
    rw [filter_ranking] at hfiltered
    have hmet : [key, other].Sublist (distinct keys) := by
      have hnames := (hfiltered.trans List.filter_sublist).map Prod.fst
      simpa [hcount, Function.comp_def] using hnames
    exact .inr ⟨hcount, List.pairwise_iff_forall_sublist.mp (pairwise_distinct keys) hmet⟩

theorem nodup_ranking (keys : List String) : ((ranking keys).map Prod.fst).Nodup := by
  have hperm := (perm_ranking keys).map Prod.fst
  rw [List.map_map] at hperm
  have hnames : (distinct keys).map (Prod.fst ∘ fun key => (key, keys.count key)) = distinct keys :=
    List.map_id' _
  rw [hnames] at hperm
  exact hperm.nodup_iff.mpr (nodup_distinct keys)

theorem length_ranking (keys : List String) : (ranking keys).length = keys.toFinset.card := by
  rw [(perm_ranking keys).length_eq, List.length_map, length_distinct]

/-- The counts of a ranking add up to the number of keys. -/
theorem sum_counts (keys : List String) : ((ranking keys).map Prod.snd).sum = keys.length := by
  have hdedup : (distinct keys).Perm keys.dedup :=
    (List.perm_ext_iff_of_nodup (nodup_distinct keys) keys.nodup_dedup).mpr fun key => by
      rw [mem_distinct, List.mem_dedup]
  have hcounts := (perm_ranking keys).map Prod.snd
  rw [List.map_map] at hcounts
  rw [hcounts.sum_eq, ← keys.sum_map_count_dedup_eq_length]
  exact (hdedup.map _).sum_eq

/-- The first entries of the ranking count all keys only if there are no others. -/
theorem sum_counts_take (keys : List String) (limit : Nat) :
    (((ranking keys).take limit).map Prod.snd).sum ≤ keys.length ∧
      ((((ranking keys).take limit).map Prod.snd).sum = keys.length ↔
        keys.toFinset.card ≤ limit) := by
  have hsplit : (((ranking keys).take limit).map Prod.snd).sum +
      (((ranking keys).drop limit).map Prod.snd).sum = keys.length := by
    rw [← List.sum_append, ← List.map_append, List.take_append_drop, sum_counts]
  refine ⟨by omega, fun hall => ?_, fun hle => ?_⟩
  · rw [← length_ranking]
    by_contra! hlt
    obtain ⟨key, hkey, heq⟩ := mem_ranking.mp ((ranking keys).getElem_mem hlt)
    have hpos := List.count_pos_iff.mpr hkey
    rw [List.drop_eq_getElem_cons hlt, heq, List.map_cons, List.sum_cons] at hsplit
    omega
  · rw [List.take_of_length_le (by rwa [length_ranking]), sum_counts]

/-! ## Counting in one pass -/

/-- Keys with their counts so far, and the position at which each key is counted. -/
structure Tally where
  counts : List (String × Nat)
  position? : String → Option Nat

namespace Tally

def start : Tally := ⟨[], fun _ => none⟩

/-- The entry after one more occurrence of its key. -/
def oneMore (entry : String × Nat) : String × Nat := (entry.1, entry.2 + 1)

/-- Counts one more key: where it is counted, or at the end if it is new. -/
def step (t : Tally) (key : String) : Tally :=
  match t.position? key with
  | some i => { t with counts := t.counts.modify i oneMore }
  | none =>
    { counts := t.counts ++ [(key, 1)]
      position? := Function.update t.position? key (some t.counts.length) }

def ofKeys (keys : List String) : Tally := keys.foldl step start

/-- The tally after some keys: their counts, and for each of them its place among these. -/
structure Counts (keys : List String) (t : Tally) : Prop where
  counts_eq : t.counts = (distinct keys).map fun key => (key, keys.count key)
  position?_eq : ∀ key, t.position? key =
    if key ∈ keys then some ((distinct keys).idxOf key) else none

/-- A key that is there already is counted where it stands. -/
theorem Counts.step_of_mem {keys : List String} {t : Tally} (h : t.Counts keys) {key : String}
    (hkey : key ∈ keys) : (t.step key).Counts (keys ++ [key]) := by
  have hstep : t.step key =
      { t with counts := t.counts.modify ((distinct keys).idxOf key) oneMore } := by
    rw [step, h.position?_eq, if_pos hkey]
  have hdistinct : distinct (keys ++ [key]) = distinct keys := by
    rw [distinct_append, if_pos hkey]
  rw [hstep]
  refine ⟨?_, fun other => ?_⟩
  · show t.counts.modify _ _ = _
    rw [h.counts_eq, hdistinct]
    refine List.ext_getElem (by simp) fun i hi _ => ?_
    have hlt : i < (distinct keys).length := by simpa using hi
    have hhere : (distinct keys).idxOf key = i ↔ key = (distinct keys)[i] := by
      constructor
      · rintro rfl
        exact (List.getElem_idxOf hlt).symm
      · rintro rfl
        exact (nodup_distinct keys).idxOf_getElem i hlt
    rw [List.getElem_modify, List.getElem_map, List.getElem_map, List.count_append,
      List.count_singleton]
    by_cases hi : key = (distinct keys)[i]
    · rw [if_pos (hhere.mpr hi), if_pos (by simpa using hi)]
      rfl
    · rw [if_neg (mt hhere.mp hi), if_neg (by simpa using hi), Nat.add_zero]
  · show t.position? other = _
    rw [h.position?_eq, hdistinct]
    by_cases hother : other = key
    · simp [hother, hkey]
    · simp [hother]

/-- A new key is counted at the end. -/
theorem Counts.step_of_notMem {keys : List String} {t : Tally} (h : t.Counts keys) {key : String}
    (hkey : key ∉ keys) : (t.step key).Counts (keys ++ [key]) := by
  have hstep : t.step key =
      ⟨t.counts ++ [(key, 1)], Function.update t.position? key (some t.counts.length)⟩ := by
    rw [step, h.position?_eq, if_neg hkey]
  have hdistinct : distinct (keys ++ [key]) = distinct keys ++ [key] := by
    rw [distinct_append, if_neg hkey]
  rw [hstep]
  refine ⟨?_, fun other => ?_⟩
  · show t.counts ++ [(key, 1)] = _
    have hsame : ∀ other ∈ distinct keys, keys.count other = (keys ++ [key]).count other := by
      intro other hother
      have hne : key ≠ other := by
        rintro rfl
        exact hkey (mem_distinct.mp hother)
      rw [List.count_append, List.count_singleton, if_neg (by simpa using hne), Nat.add_zero]
    have hnew : (keys ++ [key]).count key = 1 := by
      rw [List.count_append, List.count_eq_zero.mpr hkey, List.count_singleton_self]
    rw [h.counts_eq, hdistinct, List.map_append, List.map_singleton, hnew]
    exact congrArg (· ++ _) (List.map_congr_left fun other hother => by rw [hsame other hother])
  · show Function.update t.position? key (some t.counts.length) other = _
    rw [hdistinct]
    by_cases hother : other = key
    · subst hother
      have hdistinct : other ∉ distinct keys := mt mem_distinct.mp hkey
      rw [Function.update_self, if_pos (by simp), h.counts_eq, List.length_map,
        List.idxOf_append_of_notMem hdistinct, List.idxOf_cons_self, Nat.add_zero]
    · rw [Function.update_of_ne hother, h.position?_eq]
      by_cases hmem : other ∈ keys
      · rw [if_pos hmem, if_pos (List.mem_append_left _ hmem),
          List.idxOf_append_of_mem (mem_distinct.mpr hmem)]
      · rw [if_neg hmem, if_neg (by simp [hmem, hother])]

/-- By induction on the keys, of which the last is counted last. -/
theorem counts_ofKeys (keys : List String) : (ofKeys keys).Counts keys := by
  induction keys using List.reverseRecOn with
  | nil => exact ⟨rfl, fun _ => rfl⟩
  | append_singleton keys key ih =>
    rw [ofKeys, List.foldl_append]
    by_cases hkey : key ∈ keys
    · exact ih.step_of_mem hkey
    · exact ih.step_of_notMem hkey

end Tally

/-- Sorting the counts of one pass gives the ranking. -/
theorem ranking_eq_mergeSort (keys : List String) :
    ranking keys = (Tally.ofKeys keys).counts.mergeSort fun a b => b.2 ≤ a.2 := by
  rw [(Tally.counts_ofKeys keys).counts_eq]
  rfl

/-! ## Where a ranking begins -/

/-- The entries are the first of the ranking of the keys, as many as the limit allows. -/
structure IsHead (keys : List String) (limit : Nat) (entries : List (String × Nat)) : Prop where
  nodup : (entries.map Prod.fst).Nodup
  length_eq : entries.length = min limit keys.toFinset.card
  count_eq : ∀ entry ∈ entries, entry.1 ∈ keys ∧ entry.2 = keys.count entry.1
  ordered : entries.Pairwise fun a b => Precedes keys a.1 b.1
  /-- A key that is not listed comes after all that are. -/
  precedes_rest : ∀ key ∈ keys, key ∉ entries.map Prod.fst →
    ∀ entry ∈ entries, Precedes keys entry.1 key

theorem isHead_ranking (keys : List String) (limit : Nat) :
    IsHead keys limit ((ranking keys).take limit) where
  nodup := (nodup_ranking keys).sublist ((List.take_sublist _ _).map _)
  length_eq := by rw [List.length_take, length_ranking]
  count_eq entry hentry := by
    obtain ⟨key, hkey, rfl⟩ := mem_ranking.mp (List.mem_of_mem_take hentry)
    exact ⟨hkey, rfl⟩
  ordered := (pairwise_ranking_precedes keys).take
  precedes_rest key hkey hrest entry hentry := by
    have hordered := pairwise_ranking_precedes keys
    rw [← List.take_append_drop limit (ranking keys), List.pairwise_append] at hordered
    have hranked : (key, keys.count key) ∈ ranking keys := mem_ranking.mpr ⟨key, hkey, rfl⟩
    rw [← List.take_append_drop limit (ranking keys), List.mem_append] at hranked
    rcases hranked with hlisted | hdropped
    · exact absurd (List.mem_map_of_mem hlisted) hrest
    · exact hordered.2.2 entry hentry _ hdropped

namespace IsHead

variable {keys : List String} {limit : Nat} {xs ys : List (String × Nat)}

/-- An entry is told by its key. -/
theorem mem_of_fst_mem (hx : IsHead keys limit xs) (hy : IsHead keys limit ys)
    {entry : String × Nat} (hentry : entry ∈ xs) (hkey : entry.1 ∈ ys.map Prod.fst) :
    entry ∈ ys := by
  obtain ⟨other, hother, heq⟩ := List.mem_map.mp hkey
  have hcount : other.2 = entry.2 := by
    rw [(hy.count_eq other hother).2, (hx.count_eq entry hentry).2, heq]
  rwa [show entry = other from Prod.ext heq.symm hcount.symm]

/-- Two lists of as many entries cannot each have one that the other has not: each of the
two entries would precede the other. -/
theorem subset (hx : IsHead keys limit xs) (hy : IsHead keys limit ys) : xs ⊆ ys := by
  intro entry hentry
  by_contra hrest
  have hother : ∃ other ∈ ys, other ∉ xs := by
    by_contra! hall
    have hperm := (List.subperm_of_subset hy.nodup.of_map hall).perm_of_length_le
      (Nat.le_of_eq (hx.length_eq.trans hy.length_eq.symm))
    exact hrest (hperm.mem_iff.mpr hentry)
  obtain ⟨other, hother, hrest'⟩ := hother
  have hentryFirst := hx.precedes_rest other.1 (hy.count_eq other hother).1
    (fun h => hrest' (hy.mem_of_fst_mem hx hother h)) entry hentry
  have hotherFirst := hy.precedes_rest entry.1 (hx.count_eq entry hentry).1
    (fun h => hrest (hx.mem_of_fst_mem hy hentry h)) other hother
  exact hentryFirst.not_precedes hotherFirst

/-- There is one list only. -/
theorem eq (hx : IsHead keys limit xs) (hy : IsHead keys limit ys) : xs = ys := by
  have hsubperm : List.Subperm xs ys := List.subperm_of_subset hx.nodup.of_map (hx.subset hy)
  have hperm : xs.Perm ys :=
    hsubperm.perm_of_length_le (Nat.le_of_eq (hy.length_eq.trans hx.length_eq.symm))
  have hasymm : ∀ a b, a ∈ xs → b ∈ ys → Precedes keys a.1 b.1 → Precedes keys b.1 a.1 → a = b :=
    fun a b _ _ hab hba => absurd hba hab.not_precedes
  exact hperm.eq_of_pairwise hasymm hx.ordered hy.ordered

end IsHead

/-! ## Profiles -/

/-- What the cells of a column that hold a value are counted as, in the order of the rows. -/
def Column.keys (c : Column) : List String := c.present.map (Cell.countingKey c.type)

/-- The profile of a column names the first five of the ranking of its keys, as one pass
over them counts and a sort by falling count orders them. They count every cell that holds a
value if there are no more than five distinct keys, and only then. -/
theorem Profile.ofTable_top {t : Table} (ht : t.WellFormed) :
    List.Forall₂ (fun (c : Column) (p : ColumnProfile) =>
        p.unique = c.keys.toFinset.card ∧ IsHead c.keys 5 p.top ∧
        (∀ entries, IsHead c.keys 5 entries → entries = p.top) ∧
        p.top = ((Tally.ofKeys c.keys).counts.mergeSort fun a b => b.2 ≤ a.2).take 5 ∧
        (p.top.map Prod.snd).sum + p.missing ≤ t.rowCount ∧
        ((p.top.map Prod.snd).sum + p.missing = t.rowCount ↔ p.unique ≤ 5))
      t.columns (ofTable t).columns := by
  show List.Forall₂ _ t.columns (t.columns.map (ofColumn t.rowCount))
  rw [List.forall₂_map_right_iff, List.forall₂_same]
  intro c hc
  have hrows : c.keys.length + (ofColumn t.rowCount c).missing = t.rowCount := by
    rw [Column.keys, List.length_map, ← ht.length_cells c hc]
    exact c.length_present_add_missing
  obtain ⟨hle, hiff⟩ := sum_counts_take c.keys 5
  have hunique : (ofColumn t.rowCount c).unique = c.keys.toFinset.card := length_distinct c.keys
  have htop : (ofColumn t.rowCount c).top = (ranking c.keys).take 5 := rfl
  rw [htop, hunique, ← hiff, ← ranking_eq_mergeSort]
  have hhead := isHead_ranking c.keys 5
  exact ⟨rfl, hhead, fun entries h => h.eq hhead, rfl, by omega, by omega⟩

/-- Six values, of which `e` is met before `a` and counted as often as `b`. -/
def answers : Column :=
  ⟨"answer", [.text "c", .text "b", .missing, .text "e", .text "a", .text "b", .text "d",
    .text "f", .text "e"]⟩

/-- Truth values, some of which are texts. -/
def consents : Column :=
  ⟨"consent", [.bool true, .text " TRUE", .text "False", .missing, .missing, .bool false,
    .text "true", .missing, .missing]⟩

/-- The sixth answer is as frequent as three that are named, and met last. -/
theorem Profile.ofTable_answers :
    let t : Table := ⟨[answers, consents], 9⟩
    let ofAnswers := ofColumn 9 answers
    let ofConsents := ofColumn 9 consents
    t.WellFormed ∧ (ofTable t).columns = [ofAnswers, ofConsents] ∧
      ofAnswers.top = [("b", 2), ("e", 2), ("c", 1), ("a", 1), ("d", 1)] ∧
      ofConsents.top = [("true", 3), ("false", 2)] ∧
      (ofAnswers.top.map Prod.snd).sum + ofAnswers.missing ≠ 9 ∧
      (ofConsents.top.map Prod.snd).sum + ofConsents.missing = 9 := by
  intro t ofAnswers ofConsents
  have hwell : t.WellFormed := ⟨by decide, by decide⟩
  obtain ⟨hanswers, hrest⟩ := List.forall₂_cons.mp (ofTable_top hwell)
  obtain ⟨-, -, hfive, -, -, hsix⟩ := hanswers
  obtain ⟨⟨-, -, hboth, -, -, htwo⟩, -⟩ := List.forall₂_cons.mp hrest
  have hanswered : IsHead answers.keys 5 [("b", 2), ("e", 2), ("c", 1), ("a", 1), ("d", 1)] :=
    ⟨by decide, by decide +kernel, by decide +kernel, by decide +kernel, by decide +kernel⟩
  have hconsented : IsHead consents.keys 5 [("true", 3), ("false", 2)] :=
    ⟨by decide, by decide +kernel, by decide +kernel, by decide +kernel, by decide +kernel⟩
  exact ⟨hwell, rfl, (hfive _ hanswered).symm, (hboth _ hconsented).symm,
    mt hsix.mp (by decide +kernel), htwo.mpr (by decide +kernel)⟩

end Datasheet
