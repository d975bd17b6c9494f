import Datasheet.Table.Basic
import Mathlib.Data.List.Forall2

/-!
# The rows of a table

In a well-formed table a row has a cell of each column (`Table.WellFormed.row_eq`), and a
column can be read off the rows (`Table.WellFormed.cells_eq`). So tables of the same
columns with the same rows in another order have in each column the same cells in another
order (`Table.perm_columns`).
-/

namespace Datasheet

/-- A row of a well-formed table has a cell of each column. -/
theorem Table.WellFormed.row_eq {t : Table} (ht : t.WellFormed) {i : Nat} (hi : i < t.rowCount) :
    t.row i = t.columns.map fun c => (c.name, c.cells[i]?.getD .missing) := by
  rw [Table.row, List.filterMap_eq_map_iff_forall_eq_some]
  intro c hc
  have hlt : i < c.cells.length := by rwa [ht.length_cells c hc]
  simp [hlt]

namespace Table

@[simp] theorem length_records_none (t : Table) : (t.records none).length = t.rowCount := by
  simp [records]

/-- The cells of a column are those at its place in the rows. -/
theorem WellFormed.cells_eq {t : Table} (ht : t.WellFormed) {j : Nat} {c : Column}
    (hc : t.columns[j]? = some c) :
    c.cells = (t.records none).map fun row => (row[j]?.map Prod.snd).getD .missing := by
  have hlength := ht.length_cells c (List.mem_of_getElem? hc)
  refine List.ext_getElem (by rw [hlength, List.length_map, length_records_none]) fun i hi _ => ?_
  have hrow := ht.row_eq (hlength ▸ hi)
  simp [records, hrow, hc, hi]

/-- Rows in another order are columns with their cells in another order. -/
theorem perm_columns {t t' : Table} (ht : t.WellFormed) (ht' : t'.WellFormed)
    (hnames : t'.names = t.names) (hrows : (t'.records none).Perm (t.records none)) :
    t'.rowCount = t.rowCount ∧
      List.Forall₂ (fun c' c => c'.name = c.name ∧ c'.cells.Perm c.cells) t'.columns t.columns := by
  have hcount := hrows.length_eq
  rw [length_records_none, length_records_none] at hcount
  have hlength := congrArg List.length hnames
  rw [names, names, List.length_map, List.length_map] at hlength
  refine ⟨hcount, List.forall₂_iff_get.mpr ⟨hlength, fun j h' h => ⟨?_, ?_⟩⟩⟩
  · have hname := congrArg (·[j]?) hnames
    simpa [names, h', h] using hname
  · show t'.columns[j].cells.Perm t.columns[j].cells
    rw [ht'.cells_eq (List.getElem?_eq_getElem h'), ht.cells_eq (List.getElem?_eq_getElem h)]
    exact hrows.map _

end Table

end Datasheet
