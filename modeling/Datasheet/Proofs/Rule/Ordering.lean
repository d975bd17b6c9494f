import Datasheet.Proofs.Formula.Finiteness
import Datasheet.Proofs.Formula.Rendering
import Datasheet.Proofs.Rule.Filling

/-!
# Ordering a column

That a column is less than a number can be asked for by a condition or by a formula. Each
reads the cell and the number in its own way, and both compare them alike (`Cell.ordered`):

* `Comparison.holds?_order`: a condition compares the number of a cell;
* `Formula.toOption_ofCell`: this is the number that the cell is bound to in a formula;
* `Table.conditionCells_ordering`, `Table.formulaCells_ordering`: so each of the two
  gives `Cell.ordered`;
* `Table.addConditionColumn_ordering`: and both make the same column.

Only NaN would tell them apart. A condition finds that it is not less than the number, a
formula does not order it.
-/

namespace Datasheet

open Formula

/-! ## Numbers -/

namespace Binary64

theorem map_swap_compare? (x y : Binary64) : (x.compare? y).map Ordering.swap = y.compare? x := by
  rw [compare?, compare?, Bool.or_comm]
  split
  · rfl
  · rw [Option.map_some, Int.compare_swap]

/-- Numbers are ordered unless one is NaN. -/
theorem exists_compare? {x y : Binary64} (hx : x.isNaN = false) (hy : y.isNaN = false) :
    ∃ o, x.compare? y = some o := by
  rw [compare?, hx, hy]
  exact ⟨_, rfl⟩

end Binary64

/-- A cell compares with a text if both have a number, and as these do. NaN does not
compare as asked for, whatever is asked for. -/
theorem Comparison.holds?_order (op : OrderOp) (cell : Cell) (expected : String) :
    (order op).holds? cell expected = cell.orderNumber?.bind fun x =>
      (finiteNumber? expected).map fun y => (x.compare? y).elim false op.holds := by
  rw [holds?]
  cases cell.orderNumber? with
  | none => rfl
  | some x =>
    cases finiteNumber? expected with
    | none => rfl
    | some y =>
      have hswap := Binary64.map_swap_compare? x y
      refine congrArg some ?_
      simp only [Binary64.le, Binary64.lt, Binary64.eqv, ← hswap]
      cases x.compare? y with
      | none => cases op <;> rfl
      | some o => cases op <;> cases o <;> rfl

/-! ## Cells -/

namespace Cell

/-- Whether a cell is ordered as asked for against a number; the marker if it cannot be
ordered. -/
def ordered (op : OrderOp) (y : Binary64) (cell : Cell) : Cell :=
  ((cell.orderNumber?.bind (·.compare? y)).map fun o => bool (op.holds o)).getD failed

theorem ordered_cases (op : OrderOp) (y : Binary64) (cell : Cell) :
    cell.ordered op y = bool true ∨ cell.ordered op y = bool false ∨
      cell.ordered op y = failed := by
  rw [ordered]
  cases cell.orderNumber?.bind (·.compare? y) with
  | none => exact .inr (.inr rfl)
  | some o =>
    rw [Option.map_some, Option.getD_some]
    cases op.holds o with
    | true => exact .inl rfl
    | false => exact .inr (.inl rfl)

/-- The number of a cell is its own, or it is finite. -/
theorem orderNumber?_eq_some {cell : Cell} {x : Binary64} (h : cell.orderNumber? = some x) :
    cell = number x ∨ x.isFinite := by
  cases cell with
  | missing => cases h
  | number y => exact .inl (congrArg number (Option.some.inj h))
  | text s => exact .inr (finiteNumber?_isFinite h)
  | bool b =>
    cases h
    exact .inr (Binary64.isFinite_ofNat_toNat b)

/-- A condition gives how a cell is ordered, if the cell is not NaN. -/
theorem holds?_eq_ordered {cell : Cell} (hcell : ∀ x, cell = number x → x.isNaN = false)
    (op : OrderOp) {expected : String} {y : Binary64} (hy : finiteNumber? expected = some y) :
    (((Comparison.order op).holds? cell expected).map bool).getD failed = cell.ordered op y := by
  rw [Comparison.holds?_order, hy, ordered]
  cases hx : cell.orderNumber? with
  | none => rfl
  | some x =>
    have hnan : x.isNaN = false :=
      (orderNumber?_eq_some hx).elim (hcell x) Binary64.not_isNaN_of_isFinite
    obtain ⟨o, ho⟩ := Binary64.exists_compare? hnan
      (Binary64.not_isNaN_of_isFinite (finiteNumber?_isFinite hy))
    simp [ho]

/-- NaN is not less than a number, and cannot be ordered against one. -/
example : (Comparison.order .less).holds? (number .nan) "1" = some false ∧
    (number .nan).ordered .less (.ofNat 1) = failed := by
  decide +kernel

end Cell

namespace Formula

/-- A cell counts as the same number in a formula and in a condition. -/
theorem toOption_ofCell (column : String) (cell : Cell) :
    (Value.ofCell column cell).toOption.bind Value.number? = cell.orderNumber? := by
  cases cell with
  | missing | number x | bool b => rfl
  | text s =>
    show _ = finiteNumber? s
    rw [Value.ofCell]
    cases finiteNumber? s <;> rfl

/-- What counts as a number is ordered against one as numbers are, a text is not. -/
theorem Value.toOption_order (v : Value) (y : Binary64) :
    (v.order (.number y)).toOption = v.number?.bind (·.compare? y) := by
  by_cases htext : ∃ s, v = .text s
  · obtain ⟨s, rfl⟩ := htext
    rfl
  · rw [order]
    · generalize v.number? = counted
      cases counted with
      | none => rfl
      | some x =>
        dsimp only [number?, Option.bind_some]
        cases x.compare? y <;> rfl
    · exact fun s t hs _ => htext ⟨s, hs⟩

theorem eval_order (lookup : Nat → Except EvalError Value) (op : OrderOp) (i : Nat)
    (y : Binary64) :
    (Expr.binary (.order op) (.column i) (.literal (.number y))).eval lookup =
      (lookup i).bind fun v => (v.order (.number y)).map fun o => .bool (op.holds o) := by
  rw [Expr.eval, Expr.eval, Expr.eval]
  cases lookup i <;> rfl

/-- A formula that orders a column gives how its cells are ordered. -/
theorem toOption_evalCell_order {t : Table} {row i : Nat} {column : String} {cell : Cell}
    (hlookup : lookup t row i = Value.ofCell column cell) (op : OrderOp) (y : Binary64) :
    (evalCell t row (.binary (.order op) (.column i) (.literal (.number y)))).toOption.getD
      .failed = cell.ordered op y := by
  rw [evalCell, eval_order, hlookup, Cell.ordered, ← toOption_ofCell column]
  cases Value.ofCell column cell with
  | error e => rfl
  | ok v =>
    show _ = ((v.number?.bind (·.compare? y)).map fun o => Cell.bool (op.holds o)).getD .failed
    rw [← v.toOption_order y, Except.bind]
    cases v.order (.number y) <;> rfl

end Formula

/-! ## Columns -/

/-- The condition that a column is ordered as asked for against a numeral. -/
def Condition.ordering (column : String) (op : OrderOp) (n : NumeralText) : Condition where
  column := some column
  operator := some op.symbol.text
  value := .text (.ofList n.text)
  ifTrue := .bool true
  ifFalse := .bool false

/-- The formula for it. -/
def Formula.ordering (column : String) (op : OrderOp) (n : NumeralText) : String :=
  column ++ " " ++ op.symbol.text ++ " " ++ .ofList n.text

theorem Condition.comparison?_ordering (column : String) (op : OrderOp) (n : NumeralText) :
    (ordering column op n).comparison? = some (.order op) := by
  simp only [comparison?, ordering, Option.bind_some]
  cases op <;> decide +kernel

/-- A numeral in a text is its number if it is finite. -/
theorem finiteNumber?_numeral {n : NumeralText} (hn : n.value.isFinite) :
    finiteNumber? (.ofList n.text) = some n.value := by
  have hspace : ∀ c ∈ n.text, isSpace c = false := fun c hc => by
    rcases n.isDigit_or_mem_of_mem_text hc with hdigit | hmark
    · exact not_isSpace_of_isLetterOrNumber (isLetterOrNumber_of_isDigit hdigit)
    · have hall : ['.', 'e', 'E', '+', '-'].all (!isSpace ·) := by decide
      simpa using List.all_eq_true.mp hall c hmark
  rw [finiteNumber?, String.toList_ofList, trim_eq_self hspace, n.parse?_text, ← n.value_eq]
  simp [hn]

/-- With plain names, the formula is compiled to the comparison. -/
theorem Formula.compile_ordering {names : List String} (hplain : ∀ name ∈ names, PlainName name)
    (hnodup : names.Nodup) {i : Nat} {column : String} (hi : names[i]? = some column)
    (op : OrderOp) (n : NumeralText)
    (hlength : byteLength (ordering column op n).toList ≤ maxLength) :
    compile (ordering column op n) names =
      .ok (.binary (.order op) (.column i) (.literal (.number n.value))) := by
  obtain ⟨hlt, rfl⟩ := List.getElem?_eq_some_iff.mp hi
  have hbare : (ordering names[i] op n).toList =
      Phrase.bare (.order op) (.column ⟨i, hlt⟩) (.number n : Phrase names) := by
    simp [ordering, Phrase.bare, Phrase.render, BinaryOp.symbol]
  have hcompile : compile (.ofList (Phrase.bare (.order op) (.column ⟨i, hlt⟩) (.number n))) names =
      .ok (.binary (.order op) (.column i) (.literal (.number n.value))) :=
    compile_bare hplain hnodup (.order op) (Nat.zero_le _) (Nat.zero_le _) (hbare ▸ hlength)
  rwa [← hbare, String.ofList_toList] at hcompile

namespace Table

variable {t : Table} (ht : t.WellFormed) {source : Column} (hsource : source ∈ t.columns)

include ht hsource

theorem conditionCells_ordering (hcells : ∀ x, Cell.number x ∈ source.cells → x.isNaN = false)
    (op : OrderOp) {n : NumeralText} (hn : n.value.isFinite) :
    t.conditionCells (.ordering source.name op n) = source.cells.map (·.ordered op n.value) := by
  rw [ht.conditionCells_eq hsource rfl (Condition.comparison?_ordering source.name op n)]
  refine List.map_congr_left fun cell hcell => ?_
  rw [← Cell.holds?_eq_ordered (fun x hx => hcells x (hx ▸ hcell)) op (finiteNumber?_numeral hn)]
  show _ = (((Comparison.order op).holds? cell (.ofList n.text)).map Cell.bool).getD .failed
  refine congrArg (Option.getD · _) (Option.map_congr fun b _ => ?_)
  cases b <;> rfl

theorem formulaCells_ordering (hplain : ∀ name ∈ t.names, PlainName name) (op : OrderOp)
    {n : NumeralText} (hlength : byteLength (Formula.ordering source.name op n).toList ≤ maxLength) :
    t.formulaCells (Formula.ordering source.name op n) =
      source.cells.map (·.ordered op n.value) := by
  obtain ⟨i, hi⟩ := List.getElem?_of_mem hsource
  have hname : t.names[i]? = some source.name := by rw [names, List.getElem?_map, hi, Option.map_some]
  have hcompile := compile_ordering hplain ht.names_nodup hname op n hlength
  exact ht.formulaCells_eq_map hsource hcompile fun _ _ hcell =>
    toOption_evalCell_order (lookup_of_getElem? hi hcell) op n.value

/-- A condition and a formula that order a column against a numeral make the same column. In
each row it says whether the cell is as asked for, or that it cannot be ordered. -/
theorem addConditionColumn_ordering (hcells : ∀ x, Cell.number x ∈ source.cells → x.isNaN = false)
    (hplain : ∀ name ∈ t.names, PlainName name) (op : OrderOp) {n : NumeralText}
    (hn : n.value.isFinite)
    (hlength : byteLength (Formula.ordering source.name op n).toList ≤ maxLength)
    (name : String) :
    ∃ u cells, t.addConditionColumn name (.ordering source.name op n) = .ok u ∧
      t.addFormulaColumn name (Formula.ordering source.name op n) = .ok u ∧
      u.column? name = some ⟨name, cells⟩ ∧ cells.length = t.rowCount ∧
      cells = source.cells.map (·.ordered op n.value) ∧
      ∀ cell ∈ cells, cell = .bool true ∨ cell = .bool false ∨ cell = .failed := by
  have hcondition := conditionCells_ordering ht hsource hcells op hn
  have hformula := formulaCells_ordering ht hsource hplain op hlength
  have hrows : (source.cells.map (·.ordered op n.value)).length = t.rowCount := by
    rw [List.length_map, ht.length_cells source hsource]
  obtain ⟨u, hu, hcolumn⟩ :=
    exists_withColumn ⟨name, source.cells.map (·.ordered op n.value)⟩ hrows
  refine ⟨u, _, ?_, ?_, hcolumn, hrows, rfl, fun cell hcell => ?_⟩
  · rw [addConditionColumn, hcondition, hu]
  · rw [addFormulaColumn, hformula, hu]
  · obtain ⟨c, -, rfl⟩ := List.mem_map.mp hcell
    exact c.ordered_cases op n.value

end Table

/-- Every kind of cell, under a name that starts like a keyword. -/
def readings : Column :=
  ⟨"not_a", [.missing, .bool true, .text " 2e1 ", .text "x", .number (.ofInt (-3)), .text "0.2"]⟩

/-- The column beside one of NaN. -/
def readingsTable : Table := ⟨[⟨"a", List.replicate 6 (.number .nan)⟩, readings], 6⟩

/-- `0.25E+0` -/
def quarter : NumeralText :=
  ⟨⟨['0'], by decide⟩, some ⟨['2', '5'], by decide⟩, some ⟨true, some false, ⟨['0'], by decide⟩⟩⟩

theorem Table.readingsTable_ordering :
    readingsTable.WellFormed ∧ readings ∈ readingsTable.columns ∧
      (∀ x, Cell.number x ∈ readings.cells → x.isNaN = false) ∧
      (∀ name ∈ readingsTable.names, PlainName name) ∧ quarter.value.isFinite ∧
      ∃ u, readingsTable.addConditionColumn "b" (.ordering "not_a" .greater quarter) = .ok u ∧
        readingsTable.addFormulaColumn "b" "not_a > 0.25E+0" = .ok u ∧
        u.column? "b" = some ⟨"b", [.failed, .bool true, .bool true, .failed, .bool false,
          .bool false]⟩ := by
  have ht : readingsTable.WellFormed := ⟨by decide, by decide⟩
  have hsource : readings ∈ readingsTable.columns := by simp [readingsTable]
  have hcells : ∀ x, Cell.number x ∈ readings.cells → x.isNaN = false := fun x hx => by
    have hthree : x = .ofInt (-3) := by simpa [readings] using hx
    rw [hthree]
    decide +kernel
  have hplain : ∀ name ∈ readingsTable.names, PlainName name := by decide +kernel
  have hquarter : quarter.value.isFinite := by decide +kernel
  obtain ⟨u, cells, hcondition, hformula, hcolumn, -, hordered, -⟩ :=
    addConditionColumn_ordering ht hsource hcells hplain .greater hquarter (by decide +kernel) "b"
  refine ⟨ht, hsource, hcells, hplain, hquarter, u, hcondition, hformula, ?_⟩
  rw [hcolumn, hordered]
  decide +kernel

end Datasheet
