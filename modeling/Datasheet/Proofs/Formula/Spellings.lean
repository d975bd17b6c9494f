import Datasheet.Proofs.Formula.Owners

/-!
# Which column a formula means

A column may be written by its name or by its name without the white space around it
(`Spells`). If no two names differ in white space around them only, the order of the
columns has no say in what is found (`find?_columnKeys_eq_some`): it is the spelling
with the most bytes of those that fit, and no two of one size fit.
-/

namespace Datasheet.Formula

/-! ## Spellings -/

/-- The key's text is a spelling of the column at its position. -/
def Spells (names : List String) (key : ColumnKey) : Prop :=
  key.text ≠ [] ∧ ∃ name, names[key.index]? = some name ∧
    (key.text = name.toList ∨ key.text = trim name.toList)

/-- The names without the white space around them. -/
def trimmedNames (names : List String) : List (List Char) :=
  names.map fun name => trim name.toList

/-- The column of a spelling has that name, white space around it aside. -/
theorem Spells.exists_name {names : List String} {key : ColumnKey} (h : Spells names key) :
    ∃ name, names[key.index]? = some name ∧ trim name.toList = trim key.text := by
  obtain ⟨-, name, hname, htext⟩ := h
  refine ⟨name, hname, ?_⟩
  rcases htext with htext | htext
  · rw [htext]
  · rw [htext, trim_trim]

theorem Spells.trimmedNames_getElem? {names : List String} {key : ColumnKey}
    (h : Spells names key) : (trimmedNames names)[key.index]? = some (trim key.text) := by
  obtain ⟨name, hname, htrim⟩ := h.exists_name
  rw [trimmedNames, List.getElem?_map, hname, Option.map_some, htrim]

/-! ## Keys -/

/-- The owner of a text spells it. -/
theorem spells_of_owner? {names : List String} {key : ColumnKey}
    (h : owner? names key.text = some key.index) : Spells names key := by
  rw [owner?] at h
  split at h
  · cases h
  · rename_i hne
    refine ⟨hne, ?_⟩
    rcases Option.or_eq_some_iff.mp h with h | ⟨-, h⟩ <;>
      obtain ⟨hlt, htext, -⟩ := List.findIdx?_eq_some_iff_getElem.mp h
    · exact ⟨_, List.getElem?_eq_getElem hlt, .inl (of_decide_eq_true htext).symm⟩
    · exact ⟨_, List.getElem?_eq_getElem hlt, .inr (of_decide_eq_true htext).symm⟩

/-- A spelling has an owner. -/
theorem Spells.isSome_owner? {names : List String} {key : ColumnKey} (h : Spells names key) :
    (owner? names key.text).isSome := by
  obtain ⟨hne, name, hname, htext⟩ := h
  have hmem := List.mem_of_getElem? hname
  rw [owner?, if_neg hne, Option.isSome_or, List.findIdx?_isSome, List.findIdx?_isSome,
    Bool.or_eq_true, List.any_eq_true, List.any_eq_true]
  rcases htext with htext | htext
  · exact .inl ⟨name, hmem, decide_eq_true htext.symm⟩
  · exact .inr ⟨name, hmem, decide_eq_true htext.symm⟩

section Apart

variable {names : List String} (hnodup : (trimmedNames names).Nodup)

include hnodup

/-- If the trimmed names differ, no text is a spelling of two columns. -/
theorem Spells.index_eq {key : ColumnKey} (h : Spells names key) {i : Nat} {name : String}
    (hi : names[i]? = some name) (htrim : trim name.toList = trim key.text) : i = key.index := by
  have hat : (trimmedNames names)[i]? = some (trim key.text) := by
    rw [trimmedNames, List.getElem?_map, hi, Option.map_some, htrim]
  obtain ⟨hlt, -⟩ := List.getElem?_eq_some_iff.mp hat
  exact (List.getElem?_inj hlt hnodup).mp (hat.trans h.trimmedNames_getElem?.symm)

theorem spells_iff_owner? {key : ColumnKey} :
    Spells names key ↔ owner? names key.text = some key.index := by
  refine ⟨fun h => ?_, spells_of_owner?⟩
  obtain ⟨i, hi⟩ := Option.isSome_iff_exists.mp h.isSome_owner?
  -- the owner spells the text too
  have howner : Spells names ⟨key.text, i⟩ := spells_of_owner? hi
  obtain ⟨name, hname, htrim⟩ := howner.exists_name
  exact hi.trans (congrArg some (h.index_eq hnodup hname htrim))

theorem mem_columnKeys_iff {key : ColumnKey} : key ∈ columnKeys names ↔ Spells names key := by
  have hnames : names.Nodup := List.Nodup.of_map _ hnodup
  rw [mem_columnKeys_iff_owner? hnames, spells_iff_owner? hnodup]

/-- The key that is found is the fitting spelling with the most bytes, in whatever order
the columns stand. -/
theorem find?_columnKeys_eq_some {before : Option Char} {rest : List Char} {key : ColumnKey} :
    (columnKeys names).find? (·.fits before rest) = some key ↔
      Spells names key ∧ key.fits before rest ∧
        ∀ other, Spells names other → other.fits before rest →
          byteLength other.text ≤ byteLength key.text := by
  have hnames : names.Nodup := List.Nodup.of_map _ hnodup
  rw [find?_columnKeys_iff hnames]
  simp only [mem_columnKeys_iff hnodup]

theorem find?_columnKeys_eq_none_iff {before : Option Char} {rest : List Char} :
    (columnKeys names).find? (·.fits before rest) = none ↔
      ∀ key, Spells names key → ¬ key.fits before rest := by
  rw [List.find?_eq_none]
  exact forall_congr' fun key => imp_congr_left (mem_columnKeys_iff hnodup)

end Apart

end Datasheet.Formula
