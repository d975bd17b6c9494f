import Datasheet.Profile.Report
import Datasheet.Proofs.Profile.Indices
import Datasheet.Proofs.Rule.Ordering
import Mathlib.Data.List.Forall2

/-!
# Numeric columns

Whether a cell is a number is decided in three places: by the type of its column, where a
formula binds it and where a condition orders it. They agree:

* `Cell.isSome_number?_of_isInteger`: what counts as an integer has a number, so a column
  is numeric if all its cells have one (`ColumnType.isNumeric_ofPresent`);
* `Formula.Value.ofCell_eq_number_iff`: a cell with a number is bound to it;
* `Column.holds?_eq_none_iff`: in a numeric column only a missing cell cannot be ordered;
* `Profile.forall₂_numericStats`: no cell of a numeric column is left out of its summary.
-/

namespace Datasheet

open Formula

/-! ## Cells and columns -/

namespace Cell

/-- An integer is a number. -/
theorem isSome_number?_of_isInteger {cell : Cell} (h : cell.isInteger) : cell.number?.isSome := by
  cases cell with
  | missing | bool b => cases h
  | number x => rfl
  | text s =>
    obtain ⟨i, hi⟩ := Option.isSome_iff_exists.mp h
    obtain ⟨x, hx, hfinite⟩ := exists_parse?_of_parseInt64? hi
    show (finiteNumber? s).isSome
    simp [finiteNumber?, hx, hfinite]

/-- The number of a cell is the one by which it is ordered. -/
theorem orderNumber?_of_number? {cell : Cell} {x : Binary64} (h : cell.number? = some x) :
    cell.orderNumber? = some x := by
  cases cell with
  | bool b => cases h
  | _ => exact h

end Cell

/-- In a formula, a cell is bound to its number if it has one. -/
theorem Formula.Value.ofCell_eq_number_iff {column : String} {cell : Cell} {x : Binary64} :
    Value.ofCell column cell = .ok (.number x) ↔ cell.number? = some x := by
  cases cell with
  | missing | number y | bool b => simp [Value.ofCell, Cell.number?]
  | text s =>
    show _ ↔ finiteNumber? s = some x
    rw [Value.ofCell]
    cases finiteNumber? s <;> simp

/-- A column is numeric if all its cells have a number. -/
theorem ColumnType.isNumeric_ofPresent {cells : List Cell} (hne : cells ≠ []) :
    (ofPresent cells).isNumeric ↔ ∀ cell ∈ cells, cell.number?.isSome := by
  rw [← List.all_eq_true, ofPresent, if_neg (by simpa using hne)]
  split
  · rename_i hinteger
    have hall : cells.all (·.number?.isSome) := List.all_eq_true.mpr fun cell hcell =>
      Cell.isSome_number?_of_isInteger (List.all_eq_true.mp hinteger cell hcell)
    exact iff_of_true rfl hall
  · split
    · exact iff_of_true rfl ‹_›
    · rename_i hnumber
      refine iff_of_false ?_ hnumber
      split <;> exact Bool.false_ne_true

namespace Column

variable {c : Column}

theorem mem_present {cell : Cell} : cell ∈ c.present ↔ cell ∈ c.cells ∧ cell.isMissing = false := by
  rw [present, List.mem_filter, Bool.not_eq_true']

theorem length_present_add_missing :
    c.present.length + c.cells.countP Cell.isMissing = c.cells.length := by
  have hcount := List.length_eq_countP_add_countP Cell.isMissing (l := c.cells)
  have hpresent : c.present.length = c.cells.countP fun cell => decide ¬cell.isMissing := by
    rw [present, ← List.countP_eq_length_filter]
    simp
  omega

/-- A column without a cell that holds a value is not numeric. -/
theorem present_ne_nil (h : c.type.isNumeric) : c.present ≠ [] := by
  intro hnil
  rw [type, hnil] at h
  cases h

theorem isSome_number?_of_mem (h : c.type.isNumeric) {cell : Cell} (hcell : cell ∈ c.present) :
    cell.number?.isSome :=
  (ColumnType.isNumeric_ofPresent (present_ne_nil h)).mp h cell hcell

/-- A column is numeric if a formula binds all its cells to numbers. -/
theorem isNumeric_iff (hne : c.present ≠ []) : c.type.isNumeric ↔
    ∀ cell ∈ c.present, ∃ x, Value.ofCell c.name cell = .ok (.number x) := by
  simp only [Value.ofCell_eq_number_iff, ← Option.isSome_iff_exists]
  exact ColumnType.isNumeric_ofPresent hne

end Column

/-! ## Conditions -/

/-- Of a numeric column, the missing cells are those that cannot be ordered. -/
theorem Column.holds?_eq_none_iff {c : Column} (hnumeric : c.type.isNumeric) {cell : Cell}
    (hcell : cell ∈ c.cells) (op : OrderOp) {expected : String}
    (hexpected : (finiteNumber? expected).isSome) :
    (Comparison.order op).holds? cell expected = none ↔ cell.isMissing := by
  obtain ⟨y, hy⟩ := Option.isSome_iff_exists.mp hexpected
  rw [Comparison.holds?_order, hy]
  cases hmissing : cell.isMissing with
  | true =>
    have hcase : cell = .missing := by
      cases cell <;> first | rfl | cases hmissing
    simp [hcase, Cell.orderNumber?, Cell.number?]
  | false =>
    have hpresent : cell ∈ c.present := mem_present.mpr ⟨hcell, hmissing⟩
    obtain ⟨x, hx⟩ := Option.isSome_iff_exists.mp (isSome_number?_of_mem hnumeric hpresent)
    simp [Cell.orderNumber?_of_number? hx]

namespace Condition

/-- The condition orders the cells of a column against a number. -/
structure Orders (c : Condition) (column : String) (op : OrderOp) : Prop where
  column_eq : c.column = some column
  comparison?_eq : c.comparison? = some (.order op)
  isSome_value : (finiteNumber? c.value.display).isSome

/-- What a condition makes of a cell if it can be decided for every value: the marker if
there is no value, else one of its two cells. -/
def Fills (c : Condition) (cell made : Cell) : Prop :=
  if cell.isMissing then made = .failed else made = c.ifTrue.toCell ∨ made = c.ifFalse.toCell

end Condition

namespace Table

variable {t : Table} (ht : t.WellFormed) {source : Column} (hsource : source ∈ t.columns)

include ht hsource

/-- A condition that orders a numeric column fails for missing cells and for no others. -/
theorem fills_conditionCells (hnumeric : source.type.isNumeric) {c : Condition} {op : OrderOp}
    (hc : c.Orders source.name op) : List.Forall₂ c.Fills source.cells (t.conditionCells c) := by
  rw [ht.conditionCells_eq hsource hc.column_eq hc.comparison?_eq]
  refine List.forall₂_map_right_iff.mpr (List.forall₂_same.mpr fun cell hcell => ?_)
  have hnone := source.holds?_eq_none_iff hnumeric hcell op hc.isSome_value
  rw [Condition.Fills]
  cases hholds : (Comparison.order op).holds? cell c.value.display with
  | none => rw [if_pos (hnone.mp hholds), Option.map_none, Option.getD_none]
  | some b =>
    rw [if_neg fun hmissing => Option.some_ne_none b (hholds.symm.trans (hnone.mpr hmissing))]
    cases b with
    | true => exact .inl rfl
    | false => exact .inr rfl

end Table

/-! ## Summaries -/

namespace Summary

/-- Values have a summary, which counts them. -/
theorem exists_of? {xs : List Binary64} (hne : xs ≠ []) :
    ∃ s, of? xs = some s ∧ s.count = xs.length ∧ (s.std = none ↔ s.count = 1) := by
  obtain ⟨y, ys, hsorted⟩ := List.exists_cons_of_ne_nil (sort_ne_nil hne)
  have hlength : (sort xs).length = xs.length := List.length_mergeSort xs
  rw [hsorted] at hlength
  rw [of?, hsorted]
  refine ⟨_, rfl, hlength, ?_⟩
  show stdOf? (y :: ys) = none ↔ (y :: ys).length = 1
  rw [stdOf?, List.length_cons]
  split
  · exact iff_of_true rfl (by omega)
  · exact iff_of_false (Option.some_ne_none _) (by omega)

end Summary

/-- An entry that summarizes all cells of a column that hold a value. -/
structure ColumnProfile.SummarizedBy (rows : Nat) (c : ColumnProfile) (entry : String × Summary) :
    Prop where
  name_eq : entry.1 = c.name
  count_add_missing : entry.2.count + c.missing = rows
  std_eq_none_iff : entry.2.std = none ↔ entry.2.count = 1

namespace Profile

@[simp] theorem type_ofColumn (rows : Nat) (c : Column) : (ofColumn rows c).type = c.type := rfl

theorem summary_eq_none {c : Column} (h : ¬ c.type.isNumeric) (rows : Nat) :
    (ofColumn rows c).summary = none :=
  if_neg h

/-- Every cell of a numeric column that holds a value is summarized. -/
theorem exists_summary {c : Column} (h : c.type.isNumeric) (rows : Nat) :
    ∃ s, (ofColumn rows c).summary = some s ∧
      (ofColumn rows c).SummarizedBy c.cells.length (c.name, s) := by
  have hlength : (c.present.filterMap Cell.number?).length = c.present.length :=
    List.filterMap_length_eq_length.mpr fun cell hcell => Column.isSome_number?_of_mem h hcell
  have hvalues : c.present.filterMap Cell.number? ≠ [] := by
    rw [← List.length_pos_iff, hlength, List.length_pos_iff]
    exact Column.present_ne_nil h
  obtain ⟨s, hs, hcount, hstd⟩ := Summary.exists_of? hvalues
  have hsummary : (ofColumn rows c).summary = some s := by
    show (if c.type.isNumeric then _ else none) = _
    rw [if_pos h, hs]
  refine ⟨s, hsummary, rfl, ?_, hstd⟩
  show s.count + c.cells.countP Cell.isMissing = c.cells.length
  rw [hcount, hlength, c.length_present_add_missing]

/-- By induction on the columns: there is an entry for each numeric one. -/
theorem forall₂_numericStats {rows : Nat} {cs : List Column}
    (hlength : ∀ c ∈ cs, c.cells.length = rows) :
    List.Forall₂ (ColumnProfile.SummarizedBy rows)
      ((cs.map (ofColumn rows)).filter (·.type.isNumeric))
      ((cs.map (ofColumn rows)).filterMap fun c => c.summary.map (c.name, ·)) := by
  induction cs with
  | nil => exact .nil
  | cons c cs ih =>
    have hrest := ih fun d hd => hlength d (List.mem_cons_of_mem c hd)
    rw [List.map_cons]
    by_cases h : c.type.isNumeric
    · obtain ⟨s, hs, hsummarized⟩ := exists_summary h rows
      rw [hlength c List.mem_cons_self] at hsummarized
      rw [List.filter_cons_of_pos (by simpa using h), List.filterMap_cons_some (by rw [hs]; rfl)]
      exact .cons hsummarized hrest
    · rw [List.filter_cons_of_neg (by simpa using h),
        List.filterMap_cons_none (by rw [summary_eq_none h]; rfl)]
      exact hrest

/-- The summaries are part of the report if there are any. -/
theorem slots?_numericStats (p : Profile) :
    p.toJson.slots? ["numeric_stats"] =
      some [if p.numericStats = [] then none
        else some (.object (p.numericStats.map fun (name, s) => (name, s.toJson)))] := by
  rw [toJson]
  show fieldSlots? ["numeric_stats"] _ = _
  by_cases h : p.numericStats = [] <;> simp [h, fieldSlots?]

/-- The profile of a table summarizes each numeric column with all its values, and leaves the
summaries out if there is no such column. Of the columns with a value, these are the ones
of which a formula binds each value to a number; to order one by a condition fails for its
missing cells only. -/
theorem ofTable_numeric {t : Table} (ht : t.WellFormed) :
    ((∃ stats, (ofTable t).toJson.slots? ["numeric_stats"] = some [some stats]) ↔
        ∃ c ∈ (ofTable t).columns, c.type.isNumeric) ∧
      List.Forall₂ (ColumnProfile.SummarizedBy (ofTable t).rows)
        ((ofTable t).columns.filter (·.type.isNumeric)) (ofTable t).numericStats ∧
      ∀ c ∈ t.columns, c.present ≠ [] →
        (c.type.isNumeric ↔
          ∀ cell ∈ c.present, ∃ x, Value.ofCell c.name cell = .ok (.number x)) ∧
        (c.type.isNumeric → ∀ (k : Condition) (op : OrderOp), k.Orders c.name op →
          (∀ cell ∈ c.cells,
            (Comparison.order op).holds? cell k.value.display = none ↔ cell.isMissing) ∧
          ∀ name, ∃ u cells, t.addConditionColumn name k = .ok u ∧
            u.column? name = some ⟨name, cells⟩ ∧ List.Forall₂ k.Fills c.cells cells) := by
  have hstats : List.Forall₂ (ColumnProfile.SummarizedBy (ofTable t).rows)
      ((ofTable t).columns.filter (·.type.isNumeric)) (ofTable t).numericStats :=
    forall₂_numericStats ht.length_cells
  refine ⟨?_, hstats, fun c hc hpresent => ⟨Column.isNumeric_iff hpresent, ?_⟩⟩
  · have hlength := hstats.length_eq
    have hnone : (ofTable t).numericStats = [] ↔
        (ofTable t).columns.filter (·.type.isNumeric) = [] := by
      rw [← List.length_eq_zero_iff, ← hlength, List.length_eq_zero_iff]
    rw [slots?_numericStats]
    by_cases hempty : (ofTable t).numericStats = []
    · simpa [hempty] using hnone.mp hempty
    · have hsome := mt hnone.mpr hempty
      simpa [hempty] using hsome
  · intro hnumeric k op hk
    refine ⟨fun cell hcell => c.holds?_eq_none_iff hnumeric hcell op hk.isSome_value, ?_⟩
    intro name
    obtain ⟨u, hu, hcolumn⟩ :=
      Table.exists_withColumn ⟨name, t.conditionCells k⟩ (ht.length_conditionCells k)
    exact ⟨u, _, hu, hcolumn, Table.fills_conditionCells ht hc hnumeric hk⟩

/-- A sign, spaces and an exponent around two numbers. -/
def lengths : Column := ⟨"length", [.text " +7 ", .missing, .text "25e-1"]⟩

/-- Beside it, a single value that is NaN, a truth value among numbers and nothing at all. -/
def lengthsTable : Table :=
  ⟨[lengths, ⟨"b", [.missing, .number .nan, .missing]⟩,
    ⟨"c", [.text "1", .bool true, .text "2"]⟩, ⟨"d", List.replicate 3 .missing⟩], 3⟩

def longCondition : Condition :=
  ⟨some "length", some " >= ", .text "3.0", .text "long", .null⟩

theorem ofTable_lengthsTable :
    lengthsTable.WellFormed ∧ lengths ∈ lengthsTable.columns ∧ lengths.present ≠ [] ∧
      lengths.type.isNumeric ∧ longCondition.Orders "length" .greaterEqual ∧
      (∃ stats, (ofTable lengthsTable).toJson.slots? ["numeric_stats"] = some [some stats]) ∧
      List.Forall₂ (ColumnProfile.SummarizedBy 3)
        ((ofTable lengthsTable).columns.filter (·.type.isNumeric))
        (ofTable lengthsTable).numericStats ∧
      (∀ cell ∈ lengths.present, ∃ x, Value.ofCell "length" cell = .ok (.number x)) ∧
      ∃ u cells, lengthsTable.addConditionColumn "e" longCondition = .ok u ∧
        u.column? "e" = some ⟨"e", cells⟩ ∧ List.Forall₂ longCondition.Fills lengths.cells cells := by
  have ht : lengthsTable.WellFormed := ⟨by decide, by decide⟩
  have hlengths : lengths ∈ lengthsTable.columns := List.mem_cons_self
  have hpresent : lengths.present ≠ [] := by decide
  have horders : longCondition.Orders "length" .greaterEqual :=
    ⟨rfl, by decide +kernel, by decide +kernel⟩
  obtain ⟨hstats, hsummaries, hcolumns⟩ := ofTable_numeric ht
  obtain ⟨hiff, hconditions⟩ := hcolumns lengths hlengths hpresent
  have hnumeric : lengths.type.isNumeric := by decide +kernel
  obtain ⟨-, hadded⟩ := hconditions hnumeric longCondition .greaterEqual horders
  have hcolumn : ofColumn 3 lengths ∈ (ofTable lengthsTable).columns :=
    List.mem_map_of_mem hlengths
  refine ⟨ht, hlengths, hpresent, hnumeric, horders, hstats.mpr ⟨_, hcolumn, ?_⟩, hsummaries,
    hiff.mp hnumeric, hadded "e"⟩
  rw [type_ofColumn, hnumeric]

end Profile

end Datasheet
