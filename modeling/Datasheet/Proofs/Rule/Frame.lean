import Datasheet.Proofs.Rule.Filling

/-!
# What an edit leaves alone

The column of a rule always fits its table, also one that has lost all its columns and
goes on with the rows it had. So to apply a rule is to put one column
(`Rule.apply_eq_ok`), in the place of the one of its name or last, and every other
column stays where it is (`getElem?_replaceColumn`): without the new column, the table is
what it was without the old one (`dropColumns_replaceColumn`). Columns are dropped in any
order or at once (`dropColumns_dropColumns`).

* `Rule.apply_frame`: what a rule does to a table and what it does not.
-/

namespace Datasheet

namespace Table

/-! ## Dropping columns -/

/-- To drop some columns after others is to drop them all. -/
theorem dropColumns_dropColumns (t : Table) (first second : List String) :
    (t.dropColumns first).dropColumns second = t.dropColumns (second ++ first) := by
  rw [dropColumns, dropColumns, dropColumns, List.filter_filter]
  simp only [List.mem_append, not_or, Bool.decide_and]

theorem dropColumns_append_comm (t : Table) (names others : List String) :
    t.dropColumns (names ++ others) = t.dropColumns (others ++ names) := by
  simp only [dropColumns, List.mem_append, or_comm]

/-! ## Putting a column -/

/-- A new column is nothing new to the columns of other names. -/
theorem filter_replaceColumn {new : Column} {names : List String} (hnew : new.name ∈ names)
    (cs : List Column) :
    (replaceColumn new cs).filter (·.name ∉ names) = cs.filter (·.name ∉ names) := by
  induction cs with
  | nil => simp [replaceColumn, hnew]
  | cons c cs ih =>
    by_cases hc : c.name = new.name
    · simp [replaceColumn, hc, hnew]
    · rw [replaceColumn, if_neg hc, List.filter_cons, List.filter_cons, ih]

/-- A column of another name stays in its place. -/
theorem getElem?_replaceColumn {new c : Column} {cs : List Column} {i : Nat}
    (hc : cs[i]? = some c) (hne : c.name ≠ new.name) : (replaceColumn new cs)[i]? = some c := by
  induction cs generalizing i with
  | nil => cases hc
  | cons d ds ih =>
    by_cases hd : d.name = new.name
    · rw [replaceColumn, if_pos hd]
      cases i with
      | zero =>
        obtain rfl : d = c := Option.some.inj hc
        exact absurd hd hne
      | succ i => exact hc
    · rw [replaceColumn, if_neg hd]
      cases i with
      | zero => exact hc
      | succ i => exact ih hc

end Table

namespace Rule

variable {t : Table} (ht : t.WellFormed) (r : Rule) {name : String}

include ht

/-- A rule puts its column into the table. -/
theorem apply_eq_ok (hname : Datasheet.isBlank name.toList = false) :
    r.apply t name =
      .ok ⟨Table.replaceColumn ⟨name, r.cells t⟩ t.columns, t.rowCount⟩ := by
  rw [apply_eq, hname]
  exact Table.withColumn_eq_ok (length_cells ht r)

end Rule

/-- A rule is refused for a blank name and for nothing else. Otherwise its column, with as
many cells as the table has rows, takes the place of the column of its name, or the last
place; all else stays as it is and where it is. -/
theorem Rule.apply_frame {t : Table} (ht : t.WellFormed) (r : Rule) (name : String) :
    (isBlank name.toList = true →
        r.apply t name = .error ⟨.validation, "New column name is required"⟩) ∧
      (isBlank name.toList = false → ∃ u, r.apply t name = .ok u ∧ u.WellFormed ∧
        u.rowCount = t.rowCount ∧
        u.names = (if name ∈ t.names then t.names else t.names ++ [name]) ∧
        u.column? name = some ⟨name, r.cells t⟩ ∧
        (∀ (i : Nat) (c : Column), t.columns[i]? = some c → c.name ≠ name →
          u.columns[i]? = some c) ∧
        u.dropColumns [name] = t.dropColumns [name]) ∧
      ∀ first second, (t.dropColumns first).dropColumns second = t.dropColumns (second ++ first) ∧
        (t.dropColumns first).dropColumns second = t.dropColumns (first ++ second) := by
  refine ⟨fun hblank => ?_, fun hname => ?_, fun first second => ⟨?_, ?_⟩⟩
  · rw [apply_eq, if_pos hblank]
    rfl
  · let new : Column := ⟨name, r.cells t⟩
    have hput : t.withColumn new = .ok ⟨Table.replaceColumn new t.columns, t.rowCount⟩ :=
      Table.withColumn_eq_ok (length_cells ht r)
    have hothers := Table.filter_replaceColumn (List.mem_singleton_self new.name) t.columns
    refine ⟨_, r.apply_eq_ok ht hname, ht.withColumn hput, rfl,
      Table.names_replaceColumn new t.columns, Table.find?_replaceColumn new t.columns,
      fun i c hc hne => Table.getElem?_replaceColumn hc hne, ?_⟩
    exact congrArg (Table.mk · t.rowCount) hothers
  · exact t.dropColumns_dropColumns first second
  · rw [t.dropColumns_dropColumns, t.dropColumns_append_comm]

/-- Three columns of two rows. -/
def stockTable : Table :=
  ⟨[⟨"item", [.text "pen", .missing]⟩, ⟨"count", [.number (.ofNat 3), .bool true]⟩,
    ⟨"shelf", [.missing, .text "A"]⟩], 2⟩

/-- A rejected formula replaces the second column by the marker, and a column that is added
to the rows that are left of a table has as many cells. -/
theorem apply_frame_stockTable :
    stockTable.WellFormed ∧ (stockTable.dropColumns stockTable.names).WellFormed ∧
      (∃ u, (Rule.formula "item +").apply stockTable "count" = .ok u ∧
        u.names = ["item", "count", "shelf"] ∧
        u.columns[2]? = some ⟨"shelf", [.missing, .text "A"]⟩ ∧
        u.dropColumns ["count"] = stockTable.dropColumns ["count"]) ∧
      ∃ u, Rule.blank.apply (stockTable.dropColumns stockTable.names) "note" = .ok u ∧
        u.WellFormed ∧ u.rowCount = 2 ∧
        u.column? "note" = some ⟨"note", [.text "", .text ""]⟩ := by
  have hwell : stockTable.WellFormed := ⟨by decide, by decide⟩
  have hbare : (stockTable.dropColumns stockTable.names).WellFormed := hwell.dropColumns _
  obtain ⟨-, hreplaced, -⟩ := Rule.apply_frame hwell (.formula "item +") "count"
  obtain ⟨u, hu, -, -, hnames, -, hothers, hdrop⟩ := hreplaced (by decide)
  obtain ⟨-, hadded, -⟩ := Rule.apply_frame hbare .blank "note"
  obtain ⟨v, hv, hvwell, hvrows, -, hnote, -⟩ := hadded (by decide)
  exact ⟨hwell, hbare, ⟨u, hu, hnames, hothers 2 _ rfl (by decide), hdrop⟩,
    v, hv, hvwell, hvrows, hnote⟩

end Datasheet
