import Datasheet.Proofs.Formula.Renumbering
import Datasheet.Proofs.Formula.Spellings
import Datasheet.Proofs.Rule.Filling

/-!
# The order of the columns

If no two names of columns differ in white space around them only, a formula gives the
same cells in whatever order the columns stand (`addFormulaColumn_perm`). A permutation
of the columns gives each another number (`exists_renumbering`), under which the keys
that are found, and so the expression and its values, stay the same.
-/

namespace Datasheet

/-! ## Numbers of permuted columns -/

/-- The first position stays, and the others move behind it. -/
def moveTail (f : Nat → Nat) : Nat → Nat
  | 0 => 0
  | i + 1 => f i + 1

/-- The first two positions change places. -/
def swapFirst : Nat → Nat
  | 0 => 1
  | 1 => 0
  | i + 2 => i + 2

/-- A permutation moves each element to another position. Positions after the last one
stay, so that not even the failures of columns that do not exist change. By induction
on the permutation. -/
theorem exists_renumbering {α : Type} {l l' : List α} (h : l.Perm l') :
    ∃ f : Nat → Nat, f.Surjective ∧ (∀ i, l'[f i]? = l[i]?) ∧ ∀ i, l.length ≤ i → f i = i := by
  induction h with
  | nil => exact ⟨id, Function.surjective_id, fun _ => rfl, fun _ _ => rfl⟩
  | cons a _ ih =>
    obtain ⟨f, hf, hsame, hafter⟩ := ih
    refine ⟨moveTail f, fun j => ?_, fun i => ?_, fun i hi => ?_⟩
    · cases j with
      | zero => exact ⟨0, rfl⟩
      | succ j =>
        obtain ⟨i, rfl⟩ := hf j
        exact ⟨i + 1, rfl⟩
    · cases i with
      | zero => rfl
      | succ i => exact hsame i
    · cases i with
      | zero => rfl
      | succ i => exact congrArg (· + 1) (hafter i (Nat.le_of_succ_le_succ hi))
  | swap a b l =>
    refine ⟨swapFirst, fun j => ?_, fun i => ?_, fun i hi => ?_⟩
    · rcases j with _ | _ | j
      · exact ⟨1, rfl⟩
      · exact ⟨0, rfl⟩
      · exact ⟨j + 2, rfl⟩
    · rcases i with _ | _ | i <;> rfl
    · rcases i with _ | _ | i
      · simp at hi
      · simp at hi
      · rfl
  | trans h₁ _ ih₁ ih₂ =>
    obtain ⟨f, hf, hsame, hafter⟩ := ih₁
    obtain ⟨g, hg, hsame', hafter'⟩ := ih₂
    refine ⟨g ∘ f, hg.comp hf, fun i => ?_, fun i hi => ?_⟩
    · rw [Function.comp_apply, hsame', hsame]
    · rw [Function.comp_apply, hafter i hi, hafter' i (h₁.length_eq ▸ hi)]

namespace Formula

/-! ## Formulas over permuted columns -/

section Names

variable {names names' : List String} {f : Nat → Nat} (hf : f.Surjective)
  (hsame : ∀ i, names'[f i]? = names[i]?)

include hsame

theorem spells_renumber {key : ColumnKey} : Spells names' (key.renumber f) ↔ Spells names key := by
  rw [Spells, Spells, ColumnKey.renumber, hsame]

include hf

/-- The same text is found at each place, for the same column. -/
theorem find?_columnKeys_renumber (hnodup : (trimmedNames names).Nodup)
    (hnodup' : (trimmedNames names').Nodup) (before : Option Char) (rest : List Char) :
    (columnKeys names').find? (·.fits before rest) =
      ((columnKeys names).find? (·.fits before rest)).map (ColumnKey.renumber f) := by
  have hfrom : ∀ key', ∃ key : ColumnKey, key' = key.renumber f := by
    rintro ⟨text, j⟩
    obtain ⟨i, rfl⟩ := hf j
    exact ⟨⟨text, i⟩, rfl⟩
  cases hfound : (columnKeys names).find? (·.fits before rest) with
  | none =>
    refine (find?_columnKeys_eq_none_iff hnodup').mpr fun key' hkey' => ?_
    obtain ⟨key, rfl⟩ := hfrom key'
    exact (find?_columnKeys_eq_none_iff hnodup).mp hfound key ((spells_renumber hsame).mp hkey')
  | some key =>
    obtain ⟨hkey, hfits, hmost⟩ := (find?_columnKeys_eq_some hnodup).mp hfound
    refine (find?_columnKeys_eq_some hnodup').mpr
      ⟨(spells_renumber hsame).mpr hkey, hfits, fun other' hother' => ?_⟩
    obtain ⟨other, rfl⟩ := hfrom other'
    exact hmost other ((spells_renumber hsame).mp hother')

end Names

end Formula

namespace Table

variable {t : Table} {columns : List Column}

/-- A formula gives the same cells for each order of the columns. -/
theorem formulaCells_perm (hperm : t.columns.Perm columns)
    (hnodup : (Formula.trimmedNames t.names).Nodup) (source : String) :
    ({ t with columns } : Table).formulaCells source = t.formulaCells source := by
  obtain ⟨f, hf, hsame, hafter⟩ := exists_renumbering hperm
  have hnames : ∀ i, ({ t with columns } : Table).names[f i]? = t.names[i]? := fun i => by
    rw [names, names, List.getElem?_map, List.getElem?_map, hsame]
  have hnodup' : (Formula.trimmedNames ({ t with columns } : Table).names).Nodup :=
    ((hperm.map _).map _).nodup_iff.mp hnodup
  have hlookup : ∀ row i, Formula.lookup { t with columns } row (f i) = Formula.lookup t row i := by
    intro row i
    rw [Formula.lookup, Formula.lookup, hsame]
    cases hi : t.columns[i]? with
    | none => rw [hafter i (List.getElem?_eq_none_iff.mp hi)]
    | some c => rfl
  rw [formulaCells_eq, formulaCells_eq, Formula.compile_renumber
    (Formula.find?_columnKeys_renumber hf hnames hnodup hnodup') source]
  cases (Formula.compile source t.names).toOption with
  | none => rfl
  | some e =>
    refine List.map_congr_left fun row _ => ?_
    rw [Formula.evalCell, Formula.evalCell, Formula.eval_renumber (hlookup row)]

/-- Adding the column of a formula gives it the same cells for each order of the columns
that were there, and never fails. -/
theorem addFormulaColumn_perm (hperm : t.columns.Perm columns)
    (hnodup : (Formula.trimmedNames t.names).Nodup) (name source : String) :
    ∃ u u', t.addFormulaColumn name source = .ok u ∧
      ({ t with columns } : Table).addFormulaColumn name source = .ok u' ∧
      u.column? name = some ⟨name, t.formulaCells source⟩ ∧
      u'.column? name = some ⟨name, t.formulaCells source⟩ := by
  have hlength := length_formulaCells t source
  obtain ⟨u, hu, hcolumn⟩ := exists_withColumn ⟨name, t.formulaCells source⟩ hlength
  obtain ⟨u', hu', hcolumn'⟩ :=
    exists_withColumn (t := { t with columns }) ⟨name, t.formulaCells source⟩ hlength
  refine ⟨u, u', hu, ?_, hcolumn, hcolumn'⟩
  rw [addFormulaColumn, formulaCells_perm hperm hnodup]
  exact hu'

/-- Names of which one starts another, with white space before and after. -/
def spacedTable : Table :=
  ⟨[⟨"a", [.text "x", .text "x"]⟩, ⟨" b", [.text "y", .missing]⟩,
    ⟨"a b ", [.text "z", .text "z"]⟩], 2⟩

def spacedColumns : List Column :=
  [⟨" b", [.text "y", .missing]⟩, ⟨"a b ", [.text "z", .text "z"]⟩, ⟨"a", [.text "x", .text "x"]⟩]

/-- `a b` is one column here; the second row has no value in `b`. -/
theorem spacedTable_perm :
    spacedTable.columns.Perm spacedColumns ∧ (Formula.trimmedNames spacedTable.names).Nodup ∧
      ∃ u u', spacedTable.addFormulaColumn "c" "a b+b" = .ok u ∧
        ({ spacedTable with columns := spacedColumns } : Table).addFormulaColumn "c" "a b+b" =
          .ok u' ∧
        u.column? "c" = some ⟨"c", [.text "zy", .text "ERR"]⟩ ∧
        u'.column? "c" = some ⟨"c", [.text "zy", .text "ERR"]⟩ := by
  have hperm : spacedTable.columns.Perm spacedColumns := by decide +kernel
  have hnodup : (Formula.trimmedNames spacedTable.names).Nodup := by decide +kernel
  have htrimmed : Formula.trimmedKeys [['a'], [' ', 'b'], ['a', ' ', 'b', ' ']] []
      [⟨['a'], 0⟩, ⟨[' ', 'b'], 1⟩, ⟨['a', ' ', 'b', ' '], 2⟩] =
        [⟨['b'], 1⟩, ⟨['a', ' ', 'b'], 2⟩] := by
    decide +kernel
  have hkeys : Formula.columnKeys spacedTable.names = [⟨"a b ".toList, 2⟩, ⟨"a b".toList, 2⟩,
      ⟨" b".toList, 1⟩, ⟨"a".toList, 0⟩, ⟨"b".toList, 1⟩] := by
    simp +decide [Formula.columnKeys, spacedTable, names, htrimmed, List.mergeSort]
  have hcells : spacedTable.formulaCells "a b+b" = [.text "zy", .text "ERR"] := by
    rw [formulaCells, Formula.compile, Formula.scan, hkeys]
    decide +kernel
  refine ⟨hperm, hnodup, ?_⟩
  rw [← hcells]
  exact addFormulaColumn_perm hperm hnodup "c" "a b+b"

end Table

end Datasheet
