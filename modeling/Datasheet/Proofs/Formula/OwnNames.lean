import Datasheet.Proofs.Formula.Rendering
import Datasheet.Proofs.Formula.Spellings
import Datasheet.Proofs.Formula.Tokens
import Datasheet.Proofs.Rule.Filling

/-!
# A column by its own name

A name that no other column has, white space around it aside, is a formula for its column,
whatever it looks like: a keyword, a number, an operator or more than one word. Only a name
that starts with a quote is a text instead.

* `scan_ownName`: of all keys that fit, the longest is that name, with white space that
  stands behind it or not;
* `compile_ownName`: so the formula is the reference to the column, and the column that it
  fills has what its cells are bound to.
-/

namespace Datasheet

open Formula

/-- What a cell is in a formula, as a cell: a missing one fails, and a text that spells a finite
number is that number. -/
def Cell.bound : Cell → Cell
  | missing => failed
  | text s => (finiteNumber? s).elim (text s) number
  | cell => cell

namespace Formula

/-! ## Texts of one token -/

section Scans

variable {keys : List ColumnKey} {before : Option Char} {rest space : List Char} {ts : List Token}

theorem Scans.append_space (hspace : ∀ c ∈ space, isSpace c)
    (h : Scans keys (space.getLast?.or before) rest ts) : Scans keys before (space ++ rest) ts := by
  induction space generalizing before with
  | nil => exact h
  | cons c space ih =>
    obtain ⟨hc, hspace⟩ := List.forall_mem_cons.mp hspace
    rw [List.getLast?_cons, Option.some_or, ← Option.or_some] at h
    exact .space hc (ih hspace h)

theorem scans_space (hspace : ∀ c ∈ space, isSpace c) : Scans keys before space [] := by
  rw [← List.append_nil space]
  exact .append_space hspace .nil

/-- A column is the only token if nothing but white space stands around the key that is found. -/
theorem scans_column {text : List Char} {i : Nat} (hne : text ≠ [])
    (hhead : ∀ c ∈ text.head?, isSpace c = false ∧ c ≠ '"' ∧ c ≠ '\'')
    (hspace : ∀ c ∈ space, isSpace c)
    (hfound : keys.find? (·.fits before (text ++ space)) = some ⟨text, i⟩) :
    Scans keys before (text ++ space) [.column i] := by
  obtain ⟨c, cs, rfl⟩ := List.exists_cons_of_ne_nil hne
  obtain ⟨hc, hdouble, hsingle⟩ := hhead c rfl
  have hquote : ¬ (c = '"' || c = '\'') = true := by simp [hdouble, hsingle]
  refine .token hc (scanToken_of_find? hquote hfound) ?_
  show Scans keys _ ((cs ++ space).drop cs.length) []
  rw [List.drop_left]
  exact scans_space hspace

end Scans

/-! ## Keys before white space -/

/-- White space is no character of a word. -/
theorem not_any_isNameChar_of_space {o : Option Char} (h : ∀ c ∈ o, isSpace c) :
    o.any isNameChar = false := by
  cases o with
  | none => rfl
  | some c =>
    refine Bool.eq_false_iff.mpr fun hname => ?_
    have hspace := h c rfl
    rw [not_isSpace_of_isNameChar hname] at hspace
    cases hspace

/-- A key fits between white space. -/
theorem fits_append_space {key : ColumnKey} {before : Option Char} {space : List Char}
    (hbefore : ∀ c ∈ before, isSpace c) (hspace : ∀ c ∈ space, isSpace c) :
    key.fits before (key.text ++ space) := by
  have hafter : ∀ c ∈ space.head?, isSpace c := fun c hc => hspace c (List.mem_of_mem_head? hc)
  simp only [ColumnKey.fits, List.drop_left, not_any_isNameChar_of_space hbefore,
    not_any_isNameChar_of_space hafter, Bool.and_false, Bool.not_false, Bool.and_true]
  exact List.isPrefixOf_iff_prefix.mpr (List.prefix_append _ _)

/-! ## References alone -/

/-- A cell is bound to a value, or it fails. -/
theorem toOption_evalCell_column {t : Table} {row i : Nat} {column : String} {cell : Cell}
    (hlookup : lookup t row i = Value.ofCell column cell) :
    (evalCell t row (.column i)).toOption.getD .failed = cell.bound := by
  rw [evalCell, Expr.eval, hlookup]
  cases cell with
  | text s =>
    rw [Value.ofCell, Cell.bound]
    cases finiteNumber? s <;> rfl
  | _ => rfl

/-! ## Names of one column -/

section OwnName

variable {names : List String} {i : Nat} {name : String}
  (hi : names[i]? = some name) (hne : trim name.toList ≠ [])
  (hown : ∀ (j : Nat) (other : String), names[j]? = some other →
    trim other.toList = trim name.toList → j = i)

include hown

/-- A spelling with the same characters but for white space is one of the same column. -/
theorem Spells.index_eq_of_own {key : ColumnKey} (h : Spells names key)
    (htrim : trim key.text = trim name.toList) : key.index = i := by
  obtain ⟨other, hother, hname⟩ := h.exists_name
  exact hown _ other hother (hname.trans htrim)

include hi hne

/-- The name without white space around it belongs to its column. -/
theorem owner?_ownName : owner? names (trim name.toList) = some i := by
  have hspells : Spells names ⟨trim name.toList, i⟩ := ⟨hne, name, hi, .inr rfl⟩
  obtain ⟨j, hj⟩ := Option.isSome_iff_exists.mp hspells.isSome_owner?
  have howner : Spells names ⟨trim name.toList, j⟩ := spells_of_owner? hj
  exact hj.trans (congrArg some (howner.index_eq_of_own hown (trim_trim _)))

variable (hnodup : names.Nodup) {before : Option Char} {space : List Char}
  (hbefore : ∀ c ∈ before, isSpace c) (hspace : ∀ c ∈ space, isSpace c)

include hnodup hbefore hspace

/-- Of the keys that fit, the longest is the name, with some of the white space behind it. -/
theorem exists_find?_ownName :
    ∃ taken left, space = taken ++ left ∧
      (columnKeys names).find? (·.fits before (trim name.toList ++ space)) =
        some ⟨trim name.toList ++ taken, i⟩ := by
  have hmem : (⟨trim name.toList, i⟩ : ColumnKey) ∈ columnKeys names :=
    (mem_columnKeys_iff_owner? hnodup).mpr (owner?_ownName hi hne hown)
  have hfits : (⟨trim name.toList, i⟩ : ColumnKey).fits before (trim name.toList ++ space) :=
    fits_append_space hbefore hspace
  obtain ⟨key, hkey⟩ := Option.isSome_iff_exists.mp (List.find?_isSome.mpr ⟨_, hmem, hfits⟩)
  obtain ⟨hkeymem, hkeyfits, hlongest⟩ := (find?_columnKeys_iff hnodup).mp hkey
  obtain ⟨taken, htext⟩ : trim name.toList <+: key.text :=
    prefix_of_byteLength_le (List.prefix_append _ _) (prefix_of_fits hkeyfits)
      (hlongest _ hmem hfits)
  obtain ⟨left, hleft⟩ := prefix_of_fits hkeyfits
  rw [← htext, List.append_assoc, List.append_cancel_left_eq] at hleft
  refine ⟨taken, left, hleft.symm, hkey.trans ?_⟩
  have htrim : trim key.text = trim name.toList := by
    rw [← htext]
    exact trim_trim_append fun c hc => hspace c (hleft ▸ List.mem_append_left _ hc)
  have hspells := spells_of_owner? ((mem_columnKeys_iff_owner? hnodup).mp hkeymem)
  rw [htext, ← hspells.index_eq_of_own hown htrim]

omit hbefore hspace

theorem scan_ownName (hquote : ∀ c ∈ (trim name.toList).head?, c ≠ '"' ∧ c ≠ '\'')
    {source : String} (hsource : source.toList = trim name.toList ∨ source = name) :
    scan names source.toList = .ok [.column i] := by
  obtain ⟨lead, space, hsplit, hlead, hspace⟩ : ∃ lead space,
      source.toList = lead ++ (trim name.toList ++ space) ∧ (∀ c ∈ lead, isSpace c) ∧
        ∀ c ∈ space, isSpace c := by
    rcases hsource with h | rfl
    · exact ⟨[], [], by rw [h, List.nil_append, List.append_nil], by simp, by simp⟩
    · exact exists_append_trim _
  have hbefore : ∀ c ∈ lead.getLast?.or none, isSpace c := fun c hc =>
    hlead c (List.mem_of_getLast? (by rwa [Option.or_none] at hc))
  obtain ⟨taken, left, rfl, hfound⟩ := exists_find?_ownName hi hne hown hnodup hbefore hspace
  rw [scan, hsplit]
  refine scanFrom_of_scans (.append_space hlead ?_)
  rw [← List.append_assoc] at hfound ⊢
  refine scans_column (by simp [hne]) (fun c hc => ?_)
    (fun c hc => hspace c (List.mem_append_right _ hc)) hfound
  rw [List.head?_append_of_ne_nil _ hne] at hc
  exact ⟨not_isSpace_of_head?_trim _ c hc, hquote c hc⟩

/-- The column of a name that no other column has may be referred to by the name, or by the
name without the white space around it, unless it starts with a quote. So this formula gives
each row what the column's cell there is bound to. -/
theorem compile_ownName (hquote : ∀ c ∈ (trim name.toList).head?, c ≠ '"' ∧ c ≠ '\'')
    {source : String} (hsource : source.toList = trim name.toList ∨ source = name)
    (hlength : byteLength source.toList ≤ maxLength) :
    compile source names = .ok (.column i) ∧
      ∀ t : Table, t.WellFormed → t.names = names → ∀ new : String,
        ∃ c u, t.columns[i]? = some c ∧ c.name = name ∧ t.addFormulaColumn new source = .ok u ∧
          u.column? new = some ⟨new, c.cells.map Cell.bound⟩ := by
  have hscan := scan_ownName hi hne hown hnodup hquote hsource
  have hcompile := compile_of_derives hlength hscan ((Derives.column i).ofAtom .or) (by decide)
  rw [String.ofList_toList] at hcompile
  refine ⟨hcompile, fun t ht hnames new => ?_⟩
  rw [← hnames, Table.names, List.getElem?_map] at hi
  obtain ⟨c, hc, hname⟩ := Option.map_eq_some_iff.mp hi
  rw [← hnames] at hcompile
  have hcells : t.formulaCells source = c.cells.map Cell.bound :=
    ht.formulaCells_eq_map (List.mem_of_getElem? hc) hcompile fun _ _ hcell =>
      toOption_evalCell_column (lookup_of_getElem? hc hcell)
  obtain ⟨u, hu, hcolumn⟩ :=
    Table.exists_withColumn ⟨new, t.formulaCells source⟩ (t.length_formulaCells source)
  rw [hcells] at hcolumn
  exact ⟨c, u, hc, hname, hu, hcolumn⟩

end OwnName

/-- Names that look like a sum, an operand of it, a keyword and a numeral. -/
def misleadingTable : Table :=
  ⟨[⟨" a + b ", [.missing, .text " 2 ", .text "x", .bool true]⟩,
    ⟨"a", List.replicate 4 .missing⟩, ⟨"a + b c", List.replicate 4 .missing⟩,
    ⟨"and", List.replicate 4 .missing⟩, ⟨"12", List.replicate 4 .missing⟩], 4⟩

theorem compile_paddedSum :
    misleadingTable.WellFormed ∧ misleadingTable.names[0]? = some " a + b " ∧
      trim " a + b ".toList = "a + b".toList ∧
      (∀ (j : Nat) (other : String), misleadingTable.names[j]? = some other →
        trim other.toList = trim " a + b ".toList → j = 0) ∧
      compile "a + b" misleadingTable.names = .ok (.column 0) ∧
      ∃ u, misleadingTable.addFormulaColumn "c" "a + b" = .ok u ∧
        u.column? "c" = some ⟨"c", [.failed, .number (.ofNat 2), .text "x", .bool true]⟩ := by
  have hwell : misleadingTable.WellFormed := ⟨by decide, by decide⟩
  have hown : ∀ (j : Nat) (other : String), misleadingTable.names[j]? = some other →
      trim other.toList = trim " a + b ".toList → j = 0 := by
    have hnames : misleadingTable.names = [" a + b ", "a", "a + b c", "and", "12"] := rfl
    have htrims : ∀ other ∈ ["a", "a + b c", "and", "12"],
        trim other.toList ≠ trim " a + b ".toList := by decide +kernel
    intro j other hj htrim
    rw [hnames] at hj
    cases j with
    | zero => rfl
    | succ j => exact absurd htrim (htrims other (List.mem_of_getElem? hj))
  have hname : misleadingTable.names[0]? = some " a + b " := rfl
  have htrim : trim " a + b ".toList = "a + b".toList := by decide +kernel
  have hquote : ∀ c ∈ (trim " a + b ".toList).head?, c ≠ '"' ∧ c ≠ '\'' := by
    have hhead : (trim " a + b ".toList).head? = some 'a' := by decide +kernel
    rw [hhead]
    rintro c ⟨⟩
    decide
  obtain ⟨hcompile, hadd⟩ := compile_ownName hname (by rw [htrim]; decide) hown
    hwell.names_nodup hquote (.inl htrim.symm) (by decide)
  obtain ⟨c, u, hc, -, hu, hcolumn⟩ := hadd misleadingTable hwell rfl "c"
  cases hc
  have hcells : [Cell.missing, .text " 2 ", .text "x", .bool true].map Cell.bound =
      [.failed, .number (.ofNat 2), .text "x", .bool true] := by decide +kernel
  exact ⟨hwell, hname, htrim, hown, hcompile, u, hu, hcolumn.trans (by rw [hcells])⟩

end Formula

end Datasheet
