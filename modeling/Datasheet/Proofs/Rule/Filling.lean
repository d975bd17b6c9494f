import Datasheet.Proofs.Table.Editing

/-!
# Columns filled by rules

A rule gives a cell for each row, also where it can be applied to no row at all: a
condition on a column that is not there, or a formula that is rejected, fills the column
with the marker (`Rule.length_cells`). So the column of a rule fits its table, and a
rule is refused for a blank name and for nothing else (`Rule.apply_eq_error_iff`). What a
condition on a column that is there makes of each cell is `WellFormed.conditionCells_eq`.
-/

namespace Datasheet

namespace Table

/-- A formula fails for all rows at once, or for each row by itself. -/
theorem formulaCells_eq (t : Table) (source : String) :
    t.formulaCells source =
      (Formula.compile source t.names).toOption.elim (List.replicate t.rowCount .failed) fun e =>
        (List.range t.rowCount).map fun row =>
          (Formula.evalCell t row e).toOption.getD .failed := by
  rw [formulaCells]
  cases Formula.compile source t.names with
  | error e => rfl
  | ok e =>
    refine List.map_congr_left fun row _ => ?_
    cases Formula.evalCell t row e <;> rfl

theorem length_formulaCells (t : Table) (source : String) :
    (t.formulaCells source).length = t.rowCount := by
  rw [formulaCells_eq]
  cases (Formula.compile source t.names).toOption with
  | none => exact List.length_replicate
  | some e => rw [Option.elim_some, List.length_map, List.length_range]

/-- A formula that makes something of the cell of one column in each row makes it of each cell
of that column. -/
theorem WellFormed.formulaCells_eq_map {t : Table} (ht : t.WellFormed) {c : Column}
    (hc : c ∈ t.columns) {source : String} {e : Formula.Expr}
    (hcompile : Formula.compile source t.names = .ok e) {f : Cell → Cell}
    (hcells : ∀ row cell, c.cells[row]? = some cell →
      (Formula.evalCell t row e).toOption.getD .failed = f cell) :
    t.formulaCells source = c.cells.map f := by
  have hrows := ht.length_cells c hc
  rw [formulaCells_eq, hcompile]
  show (List.range t.rowCount).map _ = _
  refine List.ext_getElem (by simp [hrows]) fun row hrow hrow' => ?_
  rw [List.length_map] at hrow'
  rw [List.getElem_map, List.getElem_map, List.getElem_range]
  exact hcells row _ (List.getElem?_eq_getElem hrow')

theorem find?_replaceColumn (new : Column) (cs : List Column) :
    (replaceColumn new cs).find? (·.name = new.name) = some new := by
  induction cs with
  | nil => simp [replaceColumn]
  | cons c cs ih =>
    by_cases hc : c.name = new.name
    · simp [replaceColumn, hc]
    · rw [replaceColumn, if_neg hc, List.find?_cons_of_neg (by simpa using hc), ih]

/-- A column with a cell for each row is put among the columns, if there are any or not. -/
theorem withColumn_eq_ok {t : Table} {new : Column} (h : new.cells.length = t.rowCount) :
    t.withColumn new = .ok ⟨replaceColumn new t.columns, t.rowCount⟩ := by
  rw [withColumn]
  split
  · rename_i hempty
    rw [List.isEmpty_iff.mp hempty, h]
    rfl
  · rw [if_neg (not_not.mpr h)]

/-- A column with a cell for each row can be added, and is the one of its name then. -/
theorem exists_withColumn {t : Table} (new : Column) (h : new.cells.length = t.rowCount) :
    ∃ u, t.withColumn new = .ok u ∧ u.column? new.name = some new :=
  ⟨_, withColumn_eq_ok h, find?_replaceColumn new t.columns⟩

theorem WellFormed.length_conditionCells {t : Table} (ht : t.WellFormed) (c : Condition) :
    (t.conditionCells c).length = t.rowCount := by
  rw [conditionCells]
  split
  · rename_i source _ hsource _
    obtain ⟨name, -, hname⟩ := Option.bind_eq_some_iff.mp hsource
    rw [List.length_map, ht.length_cells source (List.mem_of_find?_eq_some hname)]
  · exact List.length_replicate

/-- A condition on a column that is there gives a cell for each cell of it. -/
theorem WellFormed.conditionCells_eq {t : Table} (ht : t.WellFormed) {source : Column}
    (hsource : source ∈ t.columns) {c : Condition} {op : Comparison}
    (hcolumn : c.column = some source.name) (hop : c.comparison? = some op) :
    t.conditionCells c = source.cells.map fun cell =>
      ((op.holds? cell c.value.display).map fun b =>
        (if b then c.ifTrue else c.ifFalse).toCell).getD .failed := by
  have hfound : c.column.bind t.column? = some source := by
    rw [hcolumn]
    exact ht.column?_name hsource
  rw [conditionCells, hfound, hop]
  refine List.map_congr_left fun cell _ => ?_
  rcases op.holds? cell c.value.display with _ | _ | _ <;> rfl

end Table

namespace Rule

/-- The cells of the column that a rule makes for a table. -/
def cells (t : Table) : Rule → List Cell
  | condition c => t.conditionCells c
  | formula source => t.formulaCells source
  | blank => List.replicate t.rowCount (.text "")

theorem length_cells {t : Table} (ht : t.WellFormed) (r : Rule) :
    (r.cells t).length = t.rowCount := by
  cases r with
  | condition c => exact ht.length_conditionCells c
  | formula source => exact t.length_formulaCells source
  | blank => exact List.length_replicate

/-- All rules are applied alike. -/
theorem apply_eq (r : Rule) (t : Table) (name : String) :
    r.apply t name =
      if Datasheet.isBlank name.toList then .error blankName
      else t.withColumn ⟨name, r.cells t⟩ := by
  cases r <;> rfl

end Rule

end Datasheet
