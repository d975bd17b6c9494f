import Datasheet.Proofs.Formula.Atoms
import Datasheet.Proofs.Formula.ColumnOrder
import Datasheet.Proofs.Formula.Owners

/-!
# Columns that a formula leaves alone

Columns that a formula does not refer to can be dropped, or hold anything, without any
effect on its cells (`addFormulaColumn_dropColumns`). What is left has other numbers
(`keptIndex`), and a spelling may pass to another column; but only one whose owner is
gone (`owner?_filter`, `isSome_owner?_of_filter`), so the texts that are found stay.

* `scanFrom_filter`: a text has the same tokens, renumbered;
* `compile_filter`: and so the same expression;
* `formulaCells_dropColumns`: which has the same value in each row.
-/

namespace Datasheet

/-! ## Numbers of kept columns -/

section Filter

variable {α : Type}

/-- The position after filtering of what stands at a position before. -/
def keptIndex (p : α → Bool) (l : List α) (i : Nat) : Nat := (l.take i).countP p

variable {p q : α → Bool} {l : List α} {i : Nat}

/-- What a filter keeps before a position, from there on, and at it. -/
theorem filter_eq_append {a : α} (hi : l[i]? = some a) (ha : p a) :
    l.filter p = (l.take i).filter p ++ a :: (l.drop (i + 1)).filter p := by
  obtain ⟨hlt, rfl⟩ := List.getElem?_eq_some_iff.mp hi
  rw [← List.filter_cons_of_pos ha, ← List.drop_eq_getElem_cons hlt, ← List.filter_append,
    List.take_append_drop]

theorem length_filter_take : ((l.take i).filter p).length = keptIndex p l i :=
  List.countP_eq_length_filter.symm

theorem getElem?_filter_keptIndex {a : α} (hi : l[i]? = some a) (ha : p a) :
    (l.filter p)[keptIndex p l i]? = some a := by
  rw [filter_eq_append hi ha, ← length_filter_take,
    List.getElem?_append_right (Nat.le_refl _), Nat.sub_self]
  rfl

/-- The first element of a kind stays the first one if it stays. -/
theorem findIdx?_filter (hi : l.findIdx? q = some i) (hp : ∀ a ∈ l[i]?, p a) :
    (l.filter p).findIdx? q = some (keptIndex p l i) := by
  obtain ⟨hlt, hqi, hbefore⟩ := List.findIdx?_eq_some_iff_getElem.mp hi
  have hnone : ((l.take i).filter p).findIdx? q = none := by
    refine List.findIdx?_eq_none_iff.mpr fun a ha => ?_
    obtain ⟨j, hj, rfl⟩ := List.mem_take_iff_getElem.mp (List.mem_of_mem_filter ha)
    exact Bool.eq_false_iff.mpr (hbefore j (by omega))
  have ha := List.getElem?_eq_getElem hlt
  rw [filter_eq_append ha (hp _ ha), List.findIdx?_append, hnone, List.findIdx?_cons,
    if_pos hqi, length_filter_take]
  simp

theorem isSome_findIdx?_of_filter (h : ((l.filter p).findIdx? q).isSome) :
    (l.findIdx? q).isSome := by
  rw [List.findIdx?_isSome, List.any_eq_true] at h ⊢
  obtain ⟨a, ha, hq⟩ := h
  exact ⟨a, List.mem_of_mem_filter ha, hq⟩

end Filter

namespace Formula

/-! ## Spellings of kept columns -/

section Names

variable {names : List String} {p : String → Bool}

/-- The owner of a text stays its owner if it stays. -/
theorem owner?_filter {text : List Char} {i : Nat} (h : owner? names text = some i)
    (hp : ∀ name ∈ names[i]?, p name) :
    owner? (names.filter p) text = some (keptIndex p names i) := by
  rw [owner?] at h ⊢
  split at h
  · cases h
  · rw [if_neg ‹_›]
    rcases Option.or_eq_some_iff.mp h with hname | ⟨hname, htrim⟩
    · rw [findIdx?_filter hname hp, Option.some_or]
    · have hnone : (names.filter p).findIdx? (·.toList = text) = none := by
        rw [← Option.not_isSome_iff_eq_none]
        exact fun hsome => by simpa [hname] using isSome_findIdx?_of_filter hsome
      rw [hnone, Option.none_or, findIdx?_filter htrim hp]

/-- No text that had no owner gets one. -/
theorem isSome_owner?_of_filter {text : List Char}
    (h : (owner? (names.filter p) text).isSome) : (owner? names text).isSome := by
  rw [owner?] at h ⊢
  split at h
  · cases h
  · rw [if_neg ‹_›]
    rw [Option.isSome_or, Bool.or_eq_true] at h ⊢
    exact h.imp isSome_findIdx?_of_filter isSome_findIdx?_of_filter

variable (hnodup : names.Nodup)

include hnodup

theorem renumber_mem_columnKeys {key : ColumnKey} (hkey : key ∈ columnKeys names)
    (hp : ∀ name ∈ names[key.index]?, p name) :
    key.renumber (keptIndex p names) ∈ columnKeys (names.filter p) := by
  rw [mem_columnKeys_iff_owner? hnodup] at hkey
  rw [mem_columnKeys_iff_owner? (hnodup.filter p)]
  exact owner?_filter hkey hp

/-- The keys that are left have texts of keys that were there. -/
theorem exists_mem_columnKeys_of_filter {key : ColumnKey}
    (hkey : key ∈ columnKeys (names.filter p)) :
    ∃ original ∈ columnKeys names, original.text = key.text := by
  rw [mem_columnKeys_iff_owner? (hnodup.filter p)] at hkey
  obtain ⟨i, hi⟩ := Option.isSome_iff_exists.mp (isSome_owner?_of_filter (by rw [hkey]; rfl))
  exact ⟨⟨key.text, i⟩, (mem_columnKeys_iff_owner? hnodup).mpr hi, rfl⟩

variable {before : Option Char} {rest : List Char}

/-- A column that is found and stays is found again. -/
theorem find?_columnKeys_filter {key : ColumnKey}
    (hfound : (columnKeys names).find? (·.fits before rest) = some key)
    (hp : ∀ name ∈ names[key.index]?, p name) :
    (columnKeys (names.filter p)).find? (·.fits before rest) =
      some (key.renumber (keptIndex p names)) := by
  obtain ⟨hkey, hfits, hmost⟩ := (find?_columnKeys_iff hnodup).mp hfound
  refine (find?_columnKeys_iff (hnodup.filter p)).mpr
    ⟨renumber_mem_columnKeys hnodup hkey hp, hfits, fun other hother hotherFits => ?_⟩
  obtain ⟨original, horiginal, htext⟩ := exists_mem_columnKeys_of_filter hnodup hother
  rw [← htext]
  exact hmost original horiginal (by rwa [fits_congr htext])

theorem find?_columnKeys_filter_eq_none
    (h : (columnKeys names).find? (·.fits before rest) = none) :
    (columnKeys (names.filter p)).find? (·.fits before rest) = none := by
  refine List.find?_eq_none.mpr fun other hother hfits => ?_
  obtain ⟨original, horiginal, htext⟩ := exists_mem_columnKeys_of_filter hnodup hother
  exact List.find?_eq_none.mp h original horiginal (by rwa [fits_congr htext])

/-! ## Formulas over kept columns -/

/-- By induction on the scan: the columns that are found stay, and where none is found
the tokens know no columns. -/
theorem scanFrom_filter {text : List Char} {ts : List Token}
    (h : scanFrom (columnKeys names) before text = .ok ts)
    (hkept : ∀ i, .column i ∈ ts → ∀ name ∈ names[i]?, p name) :
    scanFrom (columnKeys (names.filter p)) before text =
      .ok (ts.map (Token.renumber (keptIndex p names))) := by
  refine scanFrom_of_scans ?_
  induction scans_of_scanFrom h with
  | nil => exact .nil
  | space hspace hrest ih => exact .space hspace (ih (scanFrom_of_scans hrest) hkept)
  | @token before c cs t length ts hspace htoken hrest ih =>
    refine .token hspace ?_ (ih (scanFrom_of_scans hrest)
      fun i hi => hkept i (List.mem_cons_of_mem _ hi))
    have hfind : ¬ (c = '"' || c = '\'') = true →
        (columnKeys (names.filter p)).find? (·.fits before (c :: cs)) =
          ((columnKeys names).find? (·.fits before (c :: cs))).map
            (ColumnKey.renumber (keptIndex p names)) := by
      intro hquote
      cases hfound : (columnKeys names).find? (·.fits before (c :: cs)) with
      | none => exact find?_columnKeys_filter_eq_none hnodup hfound
      | some key =>
        obtain ⟨rfl, -⟩ : Token.column key.index = t ∧ _ := by
          simpa using (scanToken_of_find? hquote hfound).symm.trans htoken
        exact find?_columnKeys_filter hnodup hfound (hkept key.index List.mem_cons_self)
    rw [scanToken_renumber hfind, htoken]
    rfl

/-- A formula refers to columns that there are. -/
theorem lt_of_column_mem_atoms {source : String} {e : Expr} (h : compile source names = .ok e)
    {i : Nat} (hi : .column i ∈ e.atoms) : i < names.length := by
  rcases mem_atoms_of_compile h hi with ⟨_, hi⟩ | ⟨key, hkey, hi⟩ | ⟨_, hi⟩ | ⟨_, hi⟩ <;> cases hi
  exact lt_of_mem_columnKeys hnodup hkey

/-- The same expression, renumbered, if all of its columns stay. -/
theorem compile_filter {source : String} {e : Expr} (h : compile source names = .ok e)
    (hkept : ∀ i, .column i ∈ e.atoms → ∀ name ∈ names[i]?, p name) :
    compile source (names.filter p) = .ok (e.renumber (keptIndex p names)) := by
  obtain ⟨hshort, ts, hscan, hparse⟩ := compile_eq_ok_iff.mp h
  rw [parse_atoms hparse] at hkept
  have htokens := scanFrom_filter hnodup hscan fun i hi => hkept i (column_mem_tokenAtoms hi)
  have hsame := parse_renumber (f := keptIndex p names) ts
  rw [hparse] at hsame
  exact compile_eq_ok_iff.mpr ⟨hshort, _, htokens, eq_ok_of_toOption hsame⟩

end Names

end Formula

/-! ## Tables -/

namespace Table

/-- The tables differ in cells of columns of these names at most. -/
structure SameApartFrom (dropped : List String) (t t' : Table) : Prop where
  columns : List.Forall₂
    (fun c c' => c'.name = c.name ∧ (c.name ∉ dropped → c'.cells = c.cells)) t.columns t'.columns
  rowCount_eq : t'.rowCount = t.rowCount

namespace SameApartFrom

variable {dropped : List String} {t t' : Table}

theorem names_eq (h : t.SameApartFrom dropped t') : t'.names = t.names := by
  have hcolumns := h.columns
  rw [names, names]
  generalize t.columns = cs at *
  generalize t'.columns = cs' at *
  induction hcolumns with
  | nil => rfl
  | cons hc _ ih => rw [List.map_cons, List.map_cons, hc.1, ih]

theorem dropColumns_eq (h : t.SameApartFrom dropped t') :
    t'.dropColumns dropped = t.dropColumns dropped := by
  have hcolumns := h.columns
  have hkept : t'.columns.filter (·.name ∉ dropped) = t.columns.filter (·.name ∉ dropped) := by
    generalize t.columns = cs at *
    generalize t'.columns = cs' at *
    induction hcolumns with
    | nil => rfl
    | @cons c c' _ _ hc _ ih =>
      obtain ⟨hname, hcells⟩ := hc
      rw [List.filter_cons, List.filter_cons, ih, hname]
      split
      · have hsame : c' = c := by
          have hdrop : c.name ∉ dropped := of_decide_eq_true ‹_›
          cases c
          cases c'
          simp_all
        rw [hsame]
      · rfl
  rw [dropColumns, dropColumns, hkept, h.rowCount_eq]

end SameApartFrom

theorem names_dropColumns (t : Table) (dropped : List String) :
    (t.dropColumns dropped).names = t.names.filter (· ∉ dropped) := by
  rw [names, names, List.filter_map]
  rfl

section Unused

variable {t : Table} (hnodup : t.names.Nodup) {dropped : List String} {source : String}
  {e : Formula.Expr} (hcompile : Formula.compile source t.names = .ok e)
  (hunused : ∀ i, .column i ∈ e.atoms → ∀ name ∈ t.names[i]?, name ∉ dropped)

include hnodup hcompile hunused

/-- A column that the formula refers to is still there, under its new number. -/
theorem lookup_dropColumns {i : Nat} (hi : .column i ∈ e.atoms) (row : Nat) :
    Formula.lookup (t.dropColumns dropped) row (keptIndex (· ∉ dropped) t.names i) =
      Formula.lookup t row i := by
  have hlt : i < t.columns.length := by
    simpa [names] using Formula.lt_of_column_mem_atoms hnodup hcompile hi
  have hc : t.columns[i]? = some t.columns[i] := List.getElem?_eq_getElem hlt
  have hname : t.columns[i].name ∉ dropped := hunused i hi _ (by rw [names, List.getElem?_map, hc]; rfl)
  have hindex : keptIndex (· ∉ dropped) t.names i = keptIndex (·.name ∉ dropped) t.columns i := by
    rw [keptIndex, keptIndex, names, ← List.map_take, List.countP_map]
    rfl
  have hkept : (t.dropColumns dropped).columns[keptIndex (· ∉ dropped) t.names i]? =
      some t.columns[i] := by
    rw [hindex]
    exact getElem?_filter_keptIndex hc (decide_eq_true hname)
  rw [Formula.lookup, Formula.lookup, hkept, hc]

/-- Without the columns that it does not refer to, a formula gives the same cells. -/
theorem formulaCells_dropColumns :
    (t.dropColumns dropped).formulaCells source = t.formulaCells source := by
  have hkept : Formula.compile source (t.dropColumns dropped).names =
      .ok (e.renumber (keptIndex (· ∉ dropped) t.names)) := by
    rw [names_dropColumns]
    exact Formula.compile_filter hnodup hcompile fun i hi name hname =>
      decide_eq_true (hunused i hi name hname)
  rw [formulaCells_eq, formulaCells_eq, hkept, hcompile]
  refine List.map_congr_left fun row _ => ?_
  rw [Formula.evalCell, Formula.evalCell, Formula.eval_renumber_of_atoms fun i hi =>
    lookup_dropColumns hnodup hcompile hunused hi row]

/-- The column of a formula is the same whether the columns that the formula does not
refer to are gone or hold anything else. -/
theorem addFormulaColumn_dropColumns {t' : Table} (hsame : t.SameApartFrom dropped t')
    (name : String) :
    ∃ u u', (t.dropColumns dropped).addFormulaColumn name source = .ok u ∧
      t'.addFormulaColumn name source = .ok u' ∧
      u.column? name = some ⟨name, t.formulaCells source⟩ ∧
      u'.column? name = some ⟨name, t.formulaCells source⟩ := by
  have hnames := hsame.names_eq
  have hcells : t'.formulaCells source = t.formulaCells source := by
    rw [← formulaCells_dropColumns hnodup hcompile hunused, ← hsame.dropColumns_eq]
    exact (formulaCells_dropColumns (hnames ▸ hnodup) (hnames ▸ hcompile) (hnames ▸ hunused)).symm
  obtain ⟨u, hu, hcolumn⟩ := exists_withColumn (t := t.dropColumns dropped)
    ⟨name, t.formulaCells source⟩ (length_formulaCells t source)
  obtain ⟨u', hu', hcolumn'⟩ := exists_withColumn (t := t') ⟨name, t.formulaCells source⟩
    ((length_formulaCells t source).trans hsame.rowCount_eq.symm)
  refine ⟨u, u', ?_, ?_, hcolumn, hcolumn'⟩
  · rw [addFormulaColumn, formulaCells_dropColumns hnodup hcompile hunused]
    exact hu
  · rw [addFormulaColumn, hcells]
    exact hu'

end Unused

/-- Names that differ in a space only, or start with one another. -/
def crowdedTable : Table :=
  ⟨[⟨"b", [.text "v", .text "v"]⟩, ⟨" b", [.text "y", .text "y"]⟩,
    ⟨"a b", [.text "z", .missing]⟩, ⟨"a", [.text "x", .text "x"]⟩], 2⟩

/-- Other cells in the column `b`, and too few of them. -/
def crowdedTable' : Table :=
  ⟨[⟨"b", [.missing]⟩, ⟨" b", [.text "y", .text "y"]⟩,
    ⟨"a b", [.text "z", .missing]⟩, ⟨"a", [.text "x", .text "x"]⟩], 2⟩

/-- Without the column `b`, the text `b` means the column that is first then; `a b` and
`a` mean what they did. -/
theorem crowdedTable_unused :
    crowdedTable.names.Nodup ∧
      Formula.compile "a b+a" crowdedTable.names =
        .ok (.binary (.arith .add) (.column 2) (.column 3)) ∧
      crowdedTable.SameApartFrom ["b"] crowdedTable' ∧
      ∃ u u', (crowdedTable.dropColumns ["b"]).addFormulaColumn "b" "a b+a" = .ok u ∧
        crowdedTable'.addFormulaColumn "b" "a b+a" = .ok u' ∧
        u.column? "b" = some ⟨"b", [.text "zx", .text "ERR"]⟩ ∧
        u'.column? "b" = some ⟨"b", [.text "zx", .text "ERR"]⟩ := by
  have hnodup : crowdedTable.names.Nodup := by decide +kernel
  have htrimmed : Formula.trimmedKeys [['b'], [' ', 'b'], ['a', ' ', 'b'], ['a']] []
      [⟨['b'], 0⟩, ⟨[' ', 'b'], 1⟩, ⟨['a', ' ', 'b'], 2⟩, ⟨['a'], 3⟩] = [] := by
    decide +kernel
  have hkeys : Formula.columnKeys crowdedTable.names = [⟨"a b".toList, 2⟩, ⟨" b".toList, 1⟩,
      ⟨['b'], 0⟩, ⟨['a'], 3⟩] := by
    simp +decide [Formula.columnKeys, crowdedTable, names, htrimmed, List.mergeSort]
  have hcompile : Formula.compile "a b+a" crowdedTable.names =
      .ok (.binary (.arith .add) (.column 2) (.column 3)) := by
    rw [Formula.compile, Formula.scan, hkeys]
    decide +kernel
  have hcells : crowdedTable.formulaCells "a b+a" = [.text "zx", .text "ERR"] := by
    rw [formulaCells, hcompile]
    decide +kernel
  have hsame : crowdedTable.SameApartFrom ["b"] crowdedTable' :=
    ⟨.cons ⟨rfl, by decide⟩ (.cons ⟨rfl, fun _ => rfl⟩ (.cons ⟨rfl, fun _ => rfl⟩
      (.cons ⟨rfl, fun _ => rfl⟩ .nil))), rfl⟩
  have hunused : ∀ i, Formula.Expr.column i ∈
      (Formula.Expr.binary (.arith .add) (.column 2) (.column 3)).atoms →
        ∀ name ∈ crowdedTable.names[i]?, name ∉ ["b"] := by
    intro i hi
    obtain rfl | rfl : i = 2 ∨ i = 3 := by simpa [Formula.Expr.atoms] using hi
    · decide
    · decide
  refine ⟨hnodup, hcompile, hsame, ?_⟩
  rw [← hcells]
  exact addFormulaColumn_dropColumns hnodup hcompile hunused hsame "b"

end Table

end Datasheet
