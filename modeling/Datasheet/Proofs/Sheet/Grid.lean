import Datasheet.Proofs.Csv.RoundTrip

/-!
# Texts in a worksheet and in a file

A rectangle of texts (`Grid`) can stand in the cells of a worksheet, or in the quoted
fields of a delimited text. Its table is read from either, but by different code:

* `Grid.readTable_quoted`: the quotes keep each text as it is, whatever it holds;
* `Grid.toTable_sheet`: a worksheet keeps the cells, but loses a header that reads like a
  missing value as if it were blank;
* `Grid.tables_agree`: so the tables have the same cells, and they are the same if and
  only if no header is lost (`Grid.missing_header_lost`).
-/

namespace Datasheet

/-- A rectangle of texts. -/
structure Grid where
  header : List String
  rows : List (List String)
  header_ne_nil : header ≠ []
  length_row : ∀ row ∈ rows, row.length = header.length

namespace Grid

/-- The worksheet that has the texts in its cells. -/
def sheet (g : Grid) : Sheet := (g.header :: g.rows).map (·.map SheetCell.text)

def quotedLine (ending : Csv.LineEnd) (line : List String) : List Char :=
  [','].intercalate (line.map fun s => Csv.quote s.toList) ++ ending.text

/-- The text that has them in quotes, with commas between them. -/
def quoted (g : Grid) (ending : Csv.LineEnd) : List Char :=
  (g.header :: g.rows).flatMap (quotedLine ending)

def cells (g : Grid) : List (List Cell) := g.rows.map (·.map Cell.ofField)

variable (g : Grid)

/-! ## The text -/

section Quoted

open Csv

theorem line_ne_nil {line : List String} (h : line ∈ g.header :: g.rows) : line ≠ [] := by
  rcases List.mem_cons.mp h with rfl | h
  · exact g.header_ne_nil
  · have hlength := List.length_pos_iff.mpr g.header_ne_nil
    rw [← g.length_row line h] at hlength
    exact List.length_pos_iff.mp hlength

theorem encodesFields_quoted {line : List String} (hne : line ≠ []) :
    EncodesFields ',' ([','].intercalate (line.map fun s => quote s.toList))
      (line.map String.toList) := by
  have hencodes : EncodesFields ',' ([','].intercalate ((line.map String.toList).map quote))
      (line.map String.toList) :=
    encodesFields_intercalate (by simpa using hne) fun field _ => .quoted field
  rwa [List.map_map] at hencodes

theorem head?_intercalate_quote {line : List String} (hne : line ≠ []) :
    ([','].intercalate (line.map fun s => quote s.toList)).head? = some '"' := by
  obtain ⟨s, line, rfl⟩ := List.exists_cons_of_ne_nil hne
  cases line <;> simp [List.intercalate, quote]

theorem encodesRecords_quoted (ending : LineEnd) {lines : List (List String)}
    (h : ∀ line ∈ lines, line ≠ []) :
    EncodesRecords ',' (lines.flatMap (quotedLine ending)) (lines.map (·.map String.toList)) := by
  induction lines with
  | nil => exact .nil
  | cons line lines ih =>
    have hne := h line List.mem_cons_self
    refine .cons (encodesFields_quoted hne) (fun hnil => ?_) ending
      (ih fun other hother => h other (List.mem_cons_of_mem _ hother))
    have hhead := head?_intercalate_quote hne
    rw [hnil] at hhead
    cases hhead

theorem head?_quoted (ending : LineEnd) : (g.quoted ending).head? ≠ some '\uFEFF' := by
  rw [quoted, List.flatMap_cons, quotedLine, List.append_assoc, List.head?_append,
    head?_intercalate_quote g.header_ne_nil]
  simp

theorem records_quoted (ending : LineEnd) :
    records Delimiter.comma.char (g.quoted ending) =
      g.header.map String.toList :: g.rows.map (·.map String.toList) :=
  records_encodesRecords Delimiter.comma.delimits
    (encodesRecords_quoted ending fun _ => g.line_ne_nil) (g.head?_quoted ending)

/-- In lines of one quoted field each, nothing stands outside quotes. -/
theorem occursUnquoted_quotedLines (d : Delimiter) (ending : LineEnd) {lines : List (List String)}
    (h : ∀ line ∈ lines, line.length = 1) :
    occursUnquoted d false (lines.flatMap (quotedLine ending)) = false := by
  have hbreaks : ∀ rest, occursUnquoted d false (ending.text ++ rest) =
      occursUnquoted d false rest := by
    intro rest
    cases d <;> cases ending <;> simp [LineEnd.text, occursUnquoted, Delimiter.char]
  induction lines with
  | nil => rfl
  | cons line lines ih =>
    obtain ⟨s, rfl⟩ := List.length_eq_one_iff.mp (h line List.mem_cons_self)
    have hline : quotedLine ending [s] = quote s.toList ++ ending.text := by
      simp [quotedLine, List.intercalate]
    rw [List.flatMap_cons, hline, List.append_assoc, occursUnquoted_quote_append, hbreaks]
    exact ih fun other hother => h other (List.mem_cons_of_mem _ hother)

theorem sniff_quoted (ending : LineEnd) : sniff (g.quoted ending) = .comma := by
  obtain ⟨s, header, hheader⟩ := List.exists_cons_of_ne_nil g.header_ne_nil
  cases header with
  | cons s' header =>
    refine sniff_of_headerWidth ?_
    rw [headerWidth, g.records_quoted]
    simp [hheader]
  | nil =>
    have hlines : ∀ line ∈ g.header :: g.rows, line.length = 1 := by
      intro line hline
      rcases List.mem_cons.mp hline with rfl | hline
      · rw [hheader]
        rfl
      · rw [g.length_row line hline, hheader]
        rfl
    refine sniff_of_narrow (fun d => ?_) fun d _ => ?_
    · have hquoted : g.quoted ending =
          quote s.toList ++ ending.text ++ g.rows.flatMap (quotedLine ending) := by
        rw [quoted, List.flatMap_cons, hheader]
        simp [quotedLine, List.intercalate]
      have hmark : (quote s.toList).head? ≠ some '\uFEFF' := by simp [quote]
      rw [hquoted, headerWidth_of_head? (records_encodesFields d.delimits
        (.single (.quoted s.toList)) (by simp [quote]) ending hmark)]
      exact Nat.le_refl 1
    · exact occursUnquoted_of_prefix (List.takeWhile_prefix _)
        (occursUnquoted_quotedLines d ending hlines)

theorem readTable_quoted (ending : LineEnd) :
    readTable (.ofList (g.quoted ending)) = .ok (.ofRows g.header g.cells) := by
  have hfitting : (g.rows.map (·.map String.toList)).filter
      (·.length = (g.header.map String.toList).length) = g.rows.map (·.map String.toList) := by
    rw [List.filter_eq_self]
    intro fields hfields
    obtain ⟨row, hrow, rfl⟩ := List.mem_map.mp hfields
    simpa using g.length_row row hrow
  rw [readTable, String.toList_ofList, Csv.read, dropMark_eq_self (g.head?_quoted ending),
    g.sniff_quoted, readWith, g.records_quoted]
  dsimp only
  rw [hfitting, tableOf]
  simp [cells, Except.map, Function.comp_def]

end Quoted

/-! ## The worksheet -/

/-- What a worksheet leaves of a header: nothing if it reads like a missing value. -/
def headerText (s : String) : String := if s ∈ Cell.missingTexts then "" else s

theorem headerText_eq_self_iff {s : String} :
    headerText s = s ↔ (s ∈ Cell.missingTexts → s = "") := by
  by_cases hs : s ∈ Cell.missingTexts <;> simp [headerText, hs, eq_comm]

theorem toCell_text (s : String) : (SheetCell.text s).toCell = Cell.ofField s := rfl

theorem display_ofField (s : String) : (Cell.ofField s).display = headerText s := by
  by_cases hs : s ∈ Cell.missingTexts
  · rw [headerText, if_pos hs, Cell.ofField, if_pos hs, Cell.display]
  · rw [headerText, if_neg hs, Cell.ofField, if_neg hs, Cell.display]

theorem foldl_max_of_le {rows : Sheet} {width : Nat} (h : ∀ row ∈ rows, row.length ≤ width) :
    rows.foldl (fun widest row => max widest row.length) width = width := by
  induction rows with
  | nil => rfl
  | cons row rows ih =>
    rw [List.foldl_cons, Nat.max_eq_left (h row List.mem_cons_self)]
    exact ih fun other hother => h other (List.mem_cons_of_mem _ hother)

theorem width_sheet : g.sheet.width = g.header.length := by
  have hpos := List.length_pos_iff.mpr g.header_ne_nil
  rw [sheet, Sheet.width, List.map_cons, List.foldl_cons, List.length_map, Nat.max_eq_right hpos]
  refine foldl_max_of_le fun row hrow => ?_
  obtain ⟨line, hline, rfl⟩ := List.mem_map.mp hrow
  exact Nat.le_of_eq ((List.length_map _).trans (g.length_row line hline))

theorem toTable_sheet : g.sheet.toTable = .ofRows (g.header.map headerText) g.cells := by
  have hwidth := g.width_sheet
  rw [sheet, List.map_cons] at hwidth ⊢
  rw [Sheet.toTable, hwidth, List.length_map, Nat.sub_self, List.replicate_zero, List.append_nil]
  simp only [List.map_map, Function.comp_def, toCell_text, display_ofField, cells]

end Grid

/-! ## Names -/

/-- A variant of a name begins as the name does. -/
theorem head?_freeName (taken : List String) {base : String} (hbase : base.toList ≠ []) :
    (freeName taken base).toList.head? = base.toList.head? := by
  by_cases h : base ∈ taken
  · obtain ⟨k, hname, -⟩ := freeName_of_mem h
    obtain ⟨c, cs, hcs⟩ := List.exists_cons_of_ne_nil hbase
    rw [hname, numberedName, String.toList_append, String.toList_append, hcs]
    rfl
  · rw [freeName_of_notMem h]

/-- A name made of a position is none made of a text for a missing value. -/
theorem freeName_missing_ne {taken : List String} {index : Nat} {s : String}
    (hs : s ∈ Cell.missingTexts) (hempty : s ≠ "") :
    freeName taken (baseName index "") ≠ freeName taken (baseName index s) := by
  have hhead : ∀ s ∈ Cell.missingTexts, s ≠ "" →
      isBlank s.toList = false ∧ s.toList ≠ [] ∧ s.toList.head? ≠ some 'U' := by decide
  obtain ⟨hblank, hne, hfirst⟩ := hhead s hs hempty
  have hunnamed : (baseName index "").toList.head? = some 'U' := by
    rw [baseName, if_pos (by decide), String.toList_append]
    rfl
  have hnamed : baseName index s = s := if_neg (Bool.eq_false_iff.mp hblank)
  intro h
  have hheads := congrArg (·.toList.head?) h
  rw [hnamed] at hheads
  rw [head?_freeName taken (fun hnil => by rw [hnil] at hunnamed; cases hunnamed), hunnamed,
    head?_freeName taken hne] at hheads
  exact hfirst hheads.symm

theorem uniqueNamesFrom_headerText_iff (taken : List String) (index : Nat) (headers : List String) :
    uniqueNamesFrom taken index (headers.map Grid.headerText) =
      uniqueNamesFrom taken index headers ↔ ∀ s ∈ headers, s ∈ Cell.missingTexts → s = "" := by
  induction headers generalizing taken index with
  | nil => simp
  | cons s headers ih =>
    rw [List.map_cons, uniqueNamesFrom, uniqueNamesFrom, List.forall_mem_cons, List.cons.injEq,
      ← Grid.headerText_eq_self_iff]
    by_cases hs : Grid.headerText s = s
    · rw [hs, ih]
      simp
    · refine iff_of_false (fun h => ?_) fun h => hs h.1
      rw [Grid.headerText_eq_self_iff, Classical.not_imp] at hs
      rw [Grid.headerText, if_pos hs.1] at h
      exact freeName_missing_ne hs.1 hs.2 h.1

/-! ## Tables -/

theorem Table.map_cells_ofRows (headers : List String) (rows : List (List Cell)) :
    (ofRows headers rows).columns.map Column.cells =
      (List.range headers.length).map fun i => rows.map fun row => row[i]?.getD .missing := by
  refine List.ext_getElem ?_ fun i _ _ => ?_
  · simp [ofRows, uniqueNames, length_uniqueNamesFrom]
  · simp [ofRows]

/-- A rectangle of texts gives tables of the same cells in a worksheet and in quotes. A
worksheet loses the headers that read like a missing value; the tables are the same if and
only if there is none but the empty text. -/
theorem Grid.tables_agree (g : Grid) (ending : Csv.LineEnd) :
    ∃ t, Csv.readTable (.ofList (g.quoted ending)) = .ok t ∧
      g.sheet.toTable.rowCount = t.rowCount ∧
      g.sheet.toTable.columns.map Column.cells = t.columns.map Column.cells ∧
      t.names = uniqueNames g.header ∧
      g.sheet.toTable.names =
        uniqueNames (g.header.map fun s => if s ∈ Cell.missingTexts then "" else s) ∧
      (g.sheet.toTable = t ↔ ∀ s ∈ g.header, s ∈ Cell.missingTexts → s = "") := by
  refine ⟨_, g.readTable_quoted ending, ?_⟩
  rw [g.toTable_sheet]
  refine ⟨rfl, ?_, Table.names_ofRows _ _, Table.names_ofRows _ _, ?_⟩
  · rw [Table.map_cells_ofRows, Table.map_cells_ofRows, List.length_map]
  · rw [← uniqueNamesFrom_headerText_iff [] 0]
    constructor
    · intro htable
      have hnames := congrArg Table.names htable
      rwa [Table.names_ofRows, Table.names_ofRows] at hnames
    · intro hnames
      rw [Table.ofRows, uniqueNames, hnames]
      rfl

/-- A header that reads like a missing value names its column in quotes, but not in a
worksheet. -/
theorem Grid.missing_header_lost :
    let g : Grid := ⟨["NA"], [["1"]], List.cons_ne_nil _ _, by decide⟩
    Csv.readTable (.ofList (g.quoted .lineFeed)) = .ok ⟨[⟨"NA", [.text "1"]⟩], 1⟩ ∧
      g.sheet.toTable = ⟨[⟨"Unnamed: 0", [.text "1"]⟩], 1⟩ := by
  intro g
  have hread : Table.ofRows g.header g.cells = ⟨[⟨"NA", [.text "1"]⟩], 1⟩ := by decide
  exact ⟨(g.readTable_quoted .lineFeed).trans (congrArg _ hread), by decide⟩

end Datasheet
