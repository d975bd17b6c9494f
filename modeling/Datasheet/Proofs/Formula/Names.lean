import Datasheet.Formula.Scan
import Datasheet.Proofs.Text.Classes

/-!
# Plain names of columns

A column whose name is a word and no keyword (`PlainName`) is found where the word
stands in a formula, whatever the other columns are called: a key fits only the
whole word at its place (`ColumnKey.fits_iff`), so of names that continue one
another at most one fits.

* `find?_columnKeys_of_name`: the word of a column is taken for that column;
* `find?_columnKeys_eq_none`: any other word is taken for none.
-/

namespace Datasheet.Formula

/-! ## Words -/

theorem not_isSpace_of_isNameChar {c : Char} (h : isNameChar c) : isSpace c = false := by
  rw [isNameChar, Bool.or_eq_true, decide_eq_true_eq] at h
  rcases h with h | rfl
  · exact not_isSpace_of_isLetterOrNumber h
  · decide

theorem isNameChar_of_isDigit {c : Char} (h : c.isDigit) : isNameChar c := by
  rw [isNameChar, isLetterOrNumber_of_isDigit h, Bool.true_or]

/-- A character that names and keywords may start with. -/
def startsWord (c : Char) : Bool := isLetter c || c = '_'

theorem isNameChar_of_startsWord {c : Char} (h : startsWord c) : isNameChar c := by
  rw [startsWord, Bool.or_eq_true] at h
  rw [isNameChar, isLetterOrNumber, Bool.or_eq_true, Bool.or_eq_true]
  exact h.imp_left .inl

theorem not_startsWord_of_isDigit {c : Char} (h : c.isDigit) : startsWord c = false := by
  rw [startsWord, not_isLetter_of_isDigit h, Bool.false_or, decide_eq_false_iff_not]
  rintro rfl
  exact absurd h (by decide)

/-- The words that stand for operators and truth values. -/
def keywords : List String := ["and", "or", "not", "True", "true", "False", "false"]

/-- A name that is a word of the language and no keyword. -/
def PlainName (name : String) : Prop :=
  name.toList.head?.any startsWord ∧ name.toList.tail.all isNameChar ∧ name ∉ keywords

instance : DecidablePred PlainName :=
  fun name => inferInstanceAs (Decidable (_ ∧ _ ∧ name ∉ keywords))

namespace PlainName

variable {name : String}

theorem exists_cons (h : PlainName name) :
    ∃ c cs, name.toList = c :: cs ∧ startsWord c ∧ ∀ d ∈ c :: cs, isNameChar d := by
  obtain ⟨hhead, htail, -⟩ := h
  cases hname : name.toList with
  | nil => rw [hname] at hhead; cases hhead
  | cons c cs =>
    rw [hname] at hhead htail
    have hc : startsWord c := hhead
    refine ⟨c, cs, rfl, hc, fun d hd => ?_⟩
    rcases List.mem_cons.mp hd with rfl | hd
    · exact isNameChar_of_startsWord hc
    · exact List.all_eq_true.mp htail d hd

theorem toList_ne_nil (h : PlainName name) : name.toList ≠ [] := by
  obtain ⟨c, cs, hname, -⟩ := h.exists_cons
  simp [hname]

theorem isNameChar_of_mem (h : PlainName name) : ∀ c ∈ name.toList, isNameChar c := by
  obtain ⟨c, cs, hname, -, hin⟩ := h.exists_cons
  rwa [hname]

end PlainName

/-! ## Where a key fits -/

/-- A key that is a word fits if it is the whole word at its place. -/
theorem ColumnKey.fits_iff {key : ColumnKey} {before : Option Char} {rest : List Char}
    (hne : key.text ≠ []) (hkey : ∀ c ∈ key.text, isNameChar c) :
    key.fits before rest ↔
      key.text = rest.takeWhile isNameChar ∧ ∀ c ∈ before, isNameChar c = false := by
  have hhead : key.text.head?.any isNameChar = true := by
    rw [List.head?_eq_some_head hne]
    exact hkey _ (List.head_mem hne)
  have hlast : key.text.getLast?.any isNameChar = true := by
    rw [List.getLast?_eq_some_getLast hne]
    exact hkey _ (List.getLast_mem hne)
  simp only [fits, hhead, hlast, Bool.true_and, Bool.and_eq_true, Bool.not_eq_true',
    Option.any_eq_false, List.isPrefixOf_iff_prefix]
  constructor
  · rintro ⟨⟨⟨us, rfl⟩, hbefore⟩, hafter⟩
    rw [List.drop_left] at hafter
    exact ⟨(takeWhile_stop hkey hafter).symm, hbefore⟩
  · rintro ⟨hword, hbefore⟩
    have hrest : key.text ++ rest.dropWhile isNameChar = rest := by
      rw [hword, List.takeWhile_append_dropWhile]
    refine ⟨⟨⟨_, hrest⟩, hbefore⟩, fun c hc => ?_⟩
    rw [← hrest, List.drop_left] at hc
    have hstop := List.head?_dropWhile_not isNameChar rest
    rwa [hc] at hstop

/-! ## The keys of plain names -/

theorem trimmedKeys_eq_nil {names claimed : List (List Char)} {keys : List ColumnKey}
    (h : ∀ key ∈ keys, trim key.text = key.text) : trimmedKeys names claimed keys = [] := by
  induction keys with
  | nil => rfl
  | cons key keys ih =>
    rw [trimmedKeys, if_pos (by simp [h key List.mem_cons_self])]
    exact ih fun k hk => h k (List.mem_cons_of_mem key hk)

/-- The names of the columns as keys. -/
def nameKeys (names : List String) : List ColumnKey :=
  names.zipIdx.map fun (name, index) => ⟨name.toList, index⟩

theorem mem_nameKeys {names : List String} {key : ColumnKey} :
    key ∈ nameKeys names ↔ names[key.index]? = some (.ofList key.text) := by
  rw [nameKeys, List.mem_map]
  constructor
  · rintro ⟨⟨name, index⟩, hmem, rfl⟩
    rw [String.ofList_toList]
    exact List.mem_zipIdx_iff_getElem?.mp hmem
  · intro hkey
    exact ⟨(.ofList key.text, key.index), List.mem_zipIdx_iff_getElem?.mpr hkey, by simp⟩

/-- The keys of the columns are those of their names and of what is trimmed of them. -/
theorem mem_columnKeys_cases {names : List String} {key : ColumnKey} :
    key ∈ columnKeys names ↔ (key ∈ nameKeys names ∧ key.text ≠ []) ∨
      key ∈ trimmedKeys ((nameKeys names).map (·.text)) [] (nameKeys names) := by
  show key ∈ List.mergeSort ((nameKeys names).filter (·.text ≠ []) ++
    trimmedKeys ((nameKeys names).map (·.text)) [] (nameKeys names)) _ ↔ _
  rw [List.mem_mergeSort, List.mem_append, List.mem_filter, decide_eq_true_eq]

section Columns

variable {names : List String} (hplain : ∀ name ∈ names, PlainName name)

include hplain

/-- A key of a plain name is a word. -/
theorem word_of_mem_nameKeys {key : ColumnKey} (hkey : key ∈ nameKeys names) :
    key.text ≠ [] ∧ ∀ c ∈ key.text, isNameChar c := by
  have hname := hplain _ (List.mem_of_getElem? (mem_nameKeys.mp hkey))
  have hne := hname.toList_ne_nil
  have hin := hname.isNameChar_of_mem
  rw [String.toList_ofList] at hne hin
  exact ⟨hne, hin⟩

theorem mem_columnKeys {key : ColumnKey} : key ∈ columnKeys names ↔ key ∈ nameKeys names := by
  have htrim : trimmedKeys ((nameKeys names).map (·.text)) [] (nameKeys names) = [] :=
    trimmedKeys_eq_nil fun k hk => trim_eq_self fun c hc =>
      not_isSpace_of_isNameChar ((word_of_mem_nameKeys hplain hk).2 c hc)
  rw [mem_columnKeys_cases, htrim, or_iff_left List.not_mem_nil]
  exact and_iff_left_of_imp fun hkey => (word_of_mem_nameKeys hplain hkey).1

theorem fits_columnKey_iff {key : ColumnKey} (hkey : key ∈ columnKeys names)
    {before : Option Char} {rest : List Char} : key.fits before rest ↔
      key.text = rest.takeWhile isNameChar ∧ ∀ c ∈ before, isNameChar c = false := by
  obtain ⟨hne, hin⟩ := word_of_mem_nameKeys hplain ((mem_columnKeys hplain).mp hkey)
  exact ColumnKey.fits_iff hne hin

theorem find?_columnKeys_eq_none {before : Option Char} {rest : List Char}
    (h : .ofList (rest.takeWhile isNameChar) ∉ names) :
    (columnKeys names).find? (·.fits before rest) = none := by
  refine List.find?_eq_none.mpr fun key hkey hfits => h ?_
  rw [← ((fits_columnKey_iff hplain hkey).mp hfits).1]
  exact List.mem_of_getElem? (mem_nameKeys.mp ((mem_columnKeys hplain).mp hkey))

/-- Where no name can start, no column is found. -/
theorem find?_columnKeys_of_not_startsWord {c : Char} (hc : startsWord c = false)
    {before : Option Char} {rest : List Char} :
    (columnKeys names).find? (·.fits before (c :: rest)) = none := by
  refine find?_columnKeys_eq_none hplain fun hmem => ?_
  obtain ⟨d, ds, hname, hd, -⟩ := (hplain _ hmem).exists_cons
  rw [String.toList_ofList] at hname
  have hprefix : d :: ds <+: c :: rest := hname ▸ List.takeWhile_prefix isNameChar
  rw [(List.cons_prefix_cons.mp hprefix).1, hc] at hd
  cases hd

theorem find?_columnKeys_of_name (hnodup : names.Nodup) {i : Nat} {name : String}
    (hi : names[i]? = some name) {before : Option Char} {rest : List Char}
    (hbefore : ∀ c ∈ before, isNameChar c = false)
    (hrest : rest.takeWhile isNameChar = name.toList) :
    (columnKeys names).find? (·.fits before rest) = some ⟨name.toList, i⟩ := by
  have hmem : (⟨name.toList, i⟩ : ColumnKey) ∈ columnKeys names :=
    (mem_columnKeys hplain).mpr (mem_nameKeys.mpr (by rw [String.ofList_toList]; exact hi))
  have hsome := List.find?_isSome.mpr
    ⟨_, hmem, (fits_columnKey_iff hplain hmem).mpr ⟨hrest.symm, hbefore⟩⟩
  obtain ⟨key, hfind⟩ := Option.isSome_iff_exists.mp hsome
  have hkey := List.mem_of_find?_eq_some hfind
  have htext : key.text = name.toList := by
    rw [((fits_columnKey_iff hplain hkey).mp (List.find?_some hfind)).1, hrest]
  have hname := mem_nameKeys.mp ((mem_columnKeys hplain).mp hkey)
  rw [htext, String.ofList_toList, ← hi] at hname
  have hindex : key.index = i := by
    obtain ⟨hlt, -⟩ := List.getElem?_eq_some_iff.mp hi
    exact ((List.getElem?_inj hlt hnodup).mp hname.symm).symm
  rw [hfind, ← htext, ← hindex]

end Columns

end Datasheet.Formula
