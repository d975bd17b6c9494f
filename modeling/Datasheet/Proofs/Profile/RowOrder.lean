import Datasheet.Profile.Basic
import Datasheet.Proofs.Profile.Frequency
import Datasheet.Proofs.Table.Rows

/-!
# Profiles and the order of rows

A profile says the same of a table in whatever order its rows stand, but for the preview
and for which of several values that are equally frequent is named first
(`Profile.ofTable_perm`). Sums of floating-point numbers do depend on their order; but the
numbers of a column are sorted before anything is computed from them, and sorting leaves
nothing of the order they had (`Summary.sort_perm`), because numbers of one key are
identical.
-/

namespace Datasheet

/-! ## Summaries -/

namespace Summary

theorem pairwise_sort (xs : List Binary64) :
    (sort xs).Pairwise fun x y => x.totalKey ≤ y.totalKey := by
  refine (List.pairwise_mergeSort (fun x y z hxy hyz => ?_) (fun x y => ?_) _).imp of_decide_eq_true
  · rw [decide_eq_true_eq] at hxy hyz ⊢
    omega
  · rw [Bool.or_eq_true, decide_eq_true_eq, decide_eq_true_eq]
    omega

/-- Numbers have one ascending order, down to the last bit. -/
theorem sort_perm {xs ys : List Binary64} (h : ys.Perm xs) : sort ys = sort xs := by
  have hperm : (sort ys).Perm (sort xs) :=
    (List.mergeSort_perm ys _).trans (h.trans (List.mergeSort_perm xs _).symm)
  refine List.Perm.eq_of_pairwise (fun x y _ _ hxy hyx => ?_) (pairwise_sort ys) (pairwise_sort xs)
    hperm
  exact Binary64.totalKey_inj.mp (Int.le_antisymm hxy hyx)

theorem of?_perm {xs ys : List Binary64} (h : ys.Perm xs) : of? ys = of? xs := by
  rw [of?, of?, sort_perm h]

end Summary

/-! ## Columns -/

theorem ColumnType.ofPresent_perm {cells cells' : List Cell} (h : cells'.Perm cells) :
    ofPresent cells' = ofPresent cells := by
  rw [ofPresent, ofPresent, h.isEmpty_eq, h.all_eq, h.all_eq, h.all_eq]

/-- Profiles of a column that differ at most in which values are the most frequent. -/
structure ColumnProfile.Alike (p q : ColumnProfile) : Prop where
  name_eq : p.name = q.name
  type_eq : p.type = q.type
  missing_eq : p.missing = q.missing
  missingPercentage_eq : p.missingPercentage = q.missingPercentage
  unique_eq : p.unique = q.unique
  /-- As many values are listed, with the same counts in turn. -/
  counts_eq : p.top.map Prod.snd = q.top.map Prod.snd
  summary_eq : p.summary = q.summary

namespace Profile

/-- Cells in another order have the same profile. -/
theorem ofColumn_perm (rows : Nat) {c c' : Column} (hname : c'.name = c.name)
    (hcells : c'.cells.Perm c.cells) : (ofColumn rows c').Alike (ofColumn rows c) := by
  have hpresent : c'.present.Perm c.present := hcells.filter _
  have htype : c'.type = c.type := ColumnType.ofPresent_perm hpresent
  have hmissing : c'.cells.countP Cell.isMissing = c.cells.countP Cell.isMissing :=
    hcells.countP_eq _
  have hkeys : (c'.present.map (Cell.countingKey c'.type)).Perm
      (c.present.map (Cell.countingKey c.type)) := htype ▸ hpresent.map _
  refine ⟨hname, htype, hmissing, ?_, (perm_distinct hkeys).length_eq, ?_, ?_⟩
  · show percentage (c'.cells.countP Cell.isMissing) rows =
      percentage (c.cells.countP Cell.isMissing) rows
    rw [hmissing]
  · show ((ranking _).take topValues).map Prod.snd = ((ranking _).take topValues).map Prod.snd
    rw [List.map_take, List.map_take, map_snd_ranking_perm hkeys]
  · show (if c'.type.isNumeric then _ else none) = if c.type.isNumeric then _ else none
    rw [htype, Summary.of?_perm (hpresent.filterMap _)]

/-- The summaries of columns that are alike. -/
theorem numericStats_eq {p q : Profile} (h : List.Forall₂ ColumnProfile.Alike p.columns q.columns) :
    p.numericStats = q.numericStats := by
  rw [numericStats, numericStats]
  generalize p.columns = ps at h ⊢
  generalize q.columns = qs at h ⊢
  induction h with
  | nil => rfl
  | cons hpq _ ih => rw [List.filterMap_cons, List.filterMap_cons, hpq.name_eq, hpq.summary_eq, ih]

/-- Whatever the order of the rows, the profile of a table has the same types, numbers of
missing and of different values, and summaries, and its most frequent values are as
frequent. -/
theorem ofTable_perm {t t' : Table} (ht : t.WellFormed) (ht' : t'.WellFormed)
    (hnames : t'.names = t.names) (hrows : (t'.records none).Perm (t.records none)) :
    (ofTable t').rows = (ofTable t).rows ∧
      List.Forall₂ ColumnProfile.Alike (ofTable t').columns (ofTable t).columns ∧
      (ofTable t').numericStats = (ofTable t).numericStats := by
  obtain ⟨hcount, hcolumns⟩ := Table.perm_columns ht ht' hnames hrows
  have halike : List.Forall₂ ColumnProfile.Alike (ofTable t').columns (ofTable t).columns := by
    show List.Forall₂ _ (t'.columns.map (ofColumn t'.rowCount)) (t.columns.map (ofColumn t.rowCount))
    rw [hcount, List.forall₂_map_left_iff, List.forall₂_map_right_iff]
    exact hcolumns.imp fun c' c hc => ofColumn_perm t.rowCount hc.1 hc.2
  exact ⟨hcount, halike, numericStats_eq halike⟩

/-- Numbers whose sum depends on their order, beside names that are equally frequent. -/
def unsortedTable : Table :=
  ⟨[⟨"amount", [.text "1e16", .text "1", .missing, .text "-1e16"]⟩,
    ⟨"name", [.text "b", .text "a", .text "a", .text "b"]⟩], 4⟩

/-- The same rows, of which the last comes first. -/
def unsortedTableTurned : Table :=
  ⟨[⟨"amount", [.text "-1e16", .text "1e16", .text "1", .missing]⟩,
    ⟨"name", [.text "b", .text "b", .text "a", .text "a"]⟩], 4⟩

theorem unsortedTable_turned :
    unsortedTable.WellFormed ∧ unsortedTableTurned.WellFormed ∧
      unsortedTableTurned.names = unsortedTable.names ∧
      (unsortedTableTurned.records none).Perm (unsortedTable.records none) ∧
      List.Forall₂ ColumnProfile.Alike (ofTable unsortedTableTurned).columns
        (ofTable unsortedTable).columns ∧
      (ofTable unsortedTableTurned).numericStats = (ofTable unsortedTable).numericStats := by
  have hwell : unsortedTable.WellFormed := ⟨by decide, by decide⟩
  have hturned : unsortedTableTurned.WellFormed := ⟨by decide, by decide⟩
  have hrows : (unsortedTableTurned.records none).Perm (unsortedTable.records none) := by
    decide
  exact ⟨hwell, hturned, rfl, hrows, (ofTable_perm hwell hturned rfl hrows).2⟩

end Profile

end Datasheet
