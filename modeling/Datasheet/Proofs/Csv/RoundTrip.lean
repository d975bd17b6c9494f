import Datasheet.Proofs.Csv.Sniff
import Datasheet.Proofs.Encoding.Utf8
import Datasheet.Proofs.Table.Editing
import Datasheet.Proofs.Table.Rows
import Datasheet.Upload.Load
import Mathlib.Data.List.Basic

/-!
# Reading what was written

A table is written so that it can be read again: its text encodes its header and
rows with the comma (`encodesRecords_write`), and counts as comma-separated even
if the table has one column and its cells hold other delimiters (`sniff_write`).

* `read_write`: reading a written table gives its names and rows again, each cell
  as the text that it shows (`Table.reread`).
-/

namespace Datasheet

/-- The table with each cell as it is read from its text. -/
def Table.reread (t : Table) : Table where
  columns := t.columns.map fun c => ⟨c.name, c.cells.map fun cell => .ofField cell.display⟩
  rowCount := t.rowCount

namespace Csv

/-! ## Records -/

theorem not_mem_of_holdsOtherDelimiter {d : Delimiter} (hd : d ≠ .comma) {field : List Char}
    (h : holdsOtherDelimiter field = false) : d.char ∉ field := by
  intro hmem
  have hc := List.any_eq_false.mp h d.char hmem
  cases d with
  | comma => exact hd rfl
  | _ => exact hc (by decide)

/-- Under every delimiter a field is read from a written record as it is. -/
theorem encodesField_written (d : Delimiter) {quoteAll : Bool} {field : List Char}
    (h : quoteAll = false → holdsOtherDelimiter field = false) :
    EncodesField d.char (if quoteAll || needsQuotes field then quote field else field) field := by
  split
  · exact .quoted field
  · rename_i hbare
    rw [Bool.or_eq_true, not_or, Bool.not_eq_true, Bool.not_eq_true] at hbare
    refine .bare fun c hc => ?_
    have hneeds := List.any_eq_false.mp hbare.2 c hc
    simp only [Bool.or_eq_true, decide_eq_true_eq, not_or, Bool.not_eq_true] at hneeds
    refine ⟨fun e => ?_, hneeds.1.2, hneeds.2⟩
    by_cases hd : d = .comma
    · rw [hd] at e
      exact hneeds.1.1 e
    · exact not_mem_of_holdsOtherDelimiter hd (h hbare.1) (e ▸ hc)

theorem encodesFields_intercalate {d : Char} {write : List Char → List Char}
    {fields : List (List Char)} (hne : fields ≠ [])
    (h : ∀ field ∈ fields, EncodesField d (write field) field) :
    EncodesFields d ([d].intercalate (fields.map write)) fields := by
  induction fields with
  | nil => exact absurd rfl hne
  | cons field fields ih =>
    have hfield := h field List.mem_cons_self
    cases fields with
    | nil => simpa using EncodesFields.single hfield
    | cons other fields =>
      have hrest := ih (List.cons_ne_nil _ _) fun f hf => h f (List.mem_cons_of_mem _ hf)
      simpa [List.intercalate] using EncodesFields.cons hfield hrest

theorem encodesFields_writeRecord {fields : List (List Char)} (hne : fields ≠ []) :
    EncodesFields ',' (writeRecord fields) fields := by
  rw [writeRecord]
  split
  · rename_i hempty
    rw [hempty]
    exact .single (.quoted [])
  · refine encodesFields_intercalate hne fun field hfield => ?_
    exact encodesField_written .comma fun hnone =>
      Bool.eq_false_iff.mpr (List.any_eq_false.mp hnone field hfield)

/-- The only field of a record is in quotes if it is empty, holds another delimiter
or needs them. -/
theorem writeRecord_single (field : List Char) :
    ∃ quoteAll, (quoteAll = false → holdsOtherDelimiter field = false) ∧
      writeRecord [field] = if quoteAll || needsQuotes field then quote field else field := by
  by_cases hempty : field = []
  · exact ⟨true, by simp, by rw [hempty]; rfl⟩
  · refine ⟨holdsOtherDelimiter field, id, ?_⟩
    rw [writeRecord, if_neg (by simpa using hempty)]
    simp

theorem encodesFields_writeRecord_single (d : Delimiter) (field : List Char) :
    EncodesFields d.char (writeRecord [field]) [field] := by
  obtain ⟨quoteAll, hquote, hwrite⟩ := writeRecord_single field
  rw [hwrite]
  exact .single (encodesField_written d hquote)

theorem occursUnquoted_writeRecord_single {d : Delimiter} (hd : d ≠ .comma) (field : List Char) :
    occursUnquoted d false (writeRecord [field]) = false := by
  obtain ⟨quoteAll, hquote, hwrite⟩ := writeRecord_single field
  rw [hwrite]
  split
  · exact occursUnquoted_quote d field
  · rename_i hbare
    rw [Bool.or_eq_true, not_or, Bool.not_eq_true] at hbare
    exact occursUnquoted_of_notMem (not_mem_of_holdsOtherDelimiter hd (hquote hbare.1)) false

theorem writeRecord_ne_nil {fields : List (List Char)} (hne : fields ≠ []) :
    writeRecord fields ≠ [] := by
  intro hnil
  have hempty := EncodesFields.eq_of_nil (hnil ▸ encodesFields_writeRecord hne)
  rw [hempty] at hnil
  exact absurd hnil (by decide)

/-- The first field decides with which character a record starts. -/
theorem EncodesFields.head?_ne {d mark : Char} (hd : d ≠ mark) (hquote : '"' ≠ mark)
    {text field : List Char} {fields : List (List Char)}
    (h : EncodesFields d text (field :: fields)) (hfield : field.head? ≠ some mark) :
    text.head? ≠ some mark := by
  cases h with
  | single h =>
    cases h with
    | bare => exact hfield
    | quoted => simpa [quote] using hquote
  | cons h hs =>
    cases h with
    | bare =>
      cases field with
      | nil => simpa using hd
      | cons c cs => exact hfield
    | quoted => simpa [quote] using hquote

theorem encodesRecords_flatMap {records : List (List (List Char))}
    (h : ∀ fields ∈ records, fields ≠ []) :
    EncodesRecords ',' (records.flatMap fun fields => writeRecord fields ++ ['\n']) records := by
  induction records with
  | nil => exact .nil
  | cons fields records ih =>
    have hne := h fields List.mem_cons_self
    exact .cons (encodesFields_writeRecord hne) (writeRecord_ne_nil hne) .lineFeed
      (ih fun other hother => h other (List.mem_cons_of_mem _ hother))

/-! ## Tables -/

theorem write_eq {t : Table} (h : t.columns ≠ []) :
    write t =
      (headerFields t :: rowFields t).flatMap fun fields => writeRecord fields ++ ['\n'] := by
  rw [write, if_neg (by simpa using h)]

theorem rowFields_eq {t : Table} (ht : t.WellFormed) :
    rowFields t = (List.range t.rowCount).map fun i =>
      t.columns.map fun c => (c.cells[i]?.getD .missing).display.toList := by
  refine List.map_congr_left fun i hi => ?_
  rw [ht.row_eq (List.mem_range.mp hi), List.map_map]
  rfl

theorem encodesRecords_write {t : Table} (ht : t.WellFormed) (hne : t.columns ≠ []) :
    EncodesRecords ',' (write t) (headerFields t :: rowFields t) := by
  rw [write_eq hne]
  refine encodesRecords_flatMap fun fields hfields => ?_
  rcases List.mem_cons.mp hfields with rfl | hrow
  · simpa [headerFields, Table.names] using hne
  · rw [rowFields_eq ht] at hrow
    obtain ⟨i, -, rfl⟩ := List.mem_map.mp hrow
    simpa using hne

/-- The text of a table starts with a byte-order mark only if its first name does. -/
theorem head?_write {t : Table} (hne : t.columns ≠ [])
    (hmark : ∀ name, t.names.head? = some name → name.toList.head? ≠ some '\uFEFF') :
    (write t).head? ≠ some '\uFEFF' := by
  obtain ⟨c, cs, hcolumns⟩ := List.exists_cons_of_ne_nil hne
  have hheader : headerFields t = c.name.toList :: cs.map (·.name.toList) := by
    simp [headerFields, Table.names, hcolumns]
  have hfields := List.cons_ne_nil c.name.toList (cs.map (·.name.toList))
  have hhead := (encodesFields_writeRecord hfields).head?_ne (by decide) (by decide)
    (hmark c.name (by simp [Table.names, hcolumns]))
  obtain ⟨first, rest, hfirst⟩ := List.exists_cons_of_ne_nil (writeRecord_ne_nil hfields)
  rw [hfirst] at hhead
  rw [write_eq hne, List.flatMap_cons, hheader, hfirst]
  exact hhead

theorem records_write {t : Table} (ht : t.WellFormed) (hne : t.columns ≠ [])
    (hmark : (write t).head? ≠ some '\uFEFF') :
    records Delimiter.comma.char (write t) = headerFields t :: rowFields t :=
  records_encodesRecords Delimiter.comma.delimits (encodesRecords_write ht hne) hmark

/-- The text of a table counts as comma-separated: the comma splits the header of
several columns, and that of one column has nothing that another delimiter could
split. -/
theorem sniff_write {t : Table} (ht : t.WellFormed) (hne : t.columns ≠ [])
    (hmark : (write t).head? ≠ some '\uFEFF') : sniff (write t) = .comma := by
  obtain ⟨c, cs, hcolumns⟩ := List.exists_cons_of_ne_nil hne
  cases cs with
  | cons c' cs =>
    refine sniff_of_headerWidth ?_
    rw [headerWidth, records_write ht hne hmark]
    simp [headerFields, Table.names, hcolumns]
  | nil =>
    have hheader : headerFields t = [c.name.toList] := by
      simp [headerFields, Table.names, hcolumns]
    have hwrite : write t = writeRecord [c.name.toList] ++ LineEnd.lineFeed.text ++
        (rowFields t).flatMap fun fields => writeRecord fields ++ ['\n'] := by
      rw [write_eq hne, List.flatMap_cons, hheader]
      rfl
    refine sniff_of_narrow (fun d => ?_) fun d hd => ?_
    · have hmark' : (writeRecord [c.name.toList]).head? ≠ some '\uFEFF' := by
        intro hhead
        rw [hwrite, List.append_assoc, List.head?_append, hhead] at hmark
        exact hmark rfl
      have hencodes := encodesFields_writeRecord_single d c.name.toList
      rw [hwrite, headerWidth_of_head? (records_encodesFields d.delimits hencodes
        (writeRecord_ne_nil (List.cons_ne_nil _ _)) _ hmark')]
      exact Nat.le_refl 1
    · refine occursUnquoted_of_prefix ?_ (occursUnquoted_writeRecord_single hd c.name.toList)
      rw [hwrite, List.append_assoc]
      exact takeWhile_lineFeed_prefix _ _

theorem tableOf_write {t : Table} (ht : t.WellFormed) (hfilled : t.NamesFilled) :
    tableOf (headerFields t) (rowFields t) = t.reread := by
  have hnames : uniqueNames ((headerFields t).map String.ofList) = t.names := by
    have hheader : (headerFields t).map String.ofList = t.names := by
      simp [headerFields, Function.comp_def]
    rw [hheader, uniqueNames_eq_self ht.names_nodup hfilled]
  have hrows : (rowFields t).map (·.map fun field => Cell.ofField (.ofList field)) =
      (List.range t.rowCount).map fun i =>
        t.columns.map fun c => Cell.ofField (c.cells[i]?.getD .missing).display := by
    rw [rowFields_eq ht, List.map_map]
    simp [Function.comp_def]
  rw [tableOf, hrows, Table.ofRows, hnames, Table.reread, Table.mk.injEq]
  refine ⟨List.ext_getElem (by simp [Table.names]) fun i h₁ h₂ => ?_, by simp⟩
  have hi : i < t.columns.length := by simpa using h₂
  have hlength := ht.length_cells t.columns[i] (List.getElem_mem hi)
  simp only [List.getElem_mapIdx, List.getElem_map, Table.names, Column.mk.injEq, true_and,
    List.map_map]
  refine List.ext_getElem (by simp [hlength]) fun j h₃ h₄ => ?_
  have hj : j < t.columns[i].cells.length := by simpa using h₄
  simp [hi, hj]

theorem read_write {t : Table} (ht : t.WellFormed) (hfilled : t.NamesFilled)
    (hne : t.columns ≠ []) (hmark : (write t).head? ≠ some '\uFEFF') :
    read (write t) = .ok ⟨.comma, t.reread, 0⟩ := by
  have hfitting : (rowFields t).filter (·.length = (headerFields t).length) = rowFields t := by
    rw [List.filter_eq_self, rowFields_eq ht]
    intro row hrow
    obtain ⟨i, -, rfl⟩ := List.mem_map.mp hrow
    simp [headerFields, Table.names]
  rw [read, dropMark_eq_self hmark, sniff_write ht hne hmark, readWith, records_write ht hne hmark]
  dsimp only
  rw [hfitting, tableOf_write ht hfilled, Nat.sub_self]

theorem readTable_ofList_write {t : Table} (ht : t.WellFormed) (hfilled : t.NamesFilled)
    (hne : t.columns ≠ []) (hmark : (write t).head? ≠ some '\uFEFF') :
    readTable (.ofList (write t)) = .ok t.reread := by
  rw [readTable, String.toList_ofList, read_write ht hfilled hne hmark]
  rfl

theorem load_write {t : Table} (ht : t.WellFormed) (hfilled : t.NamesFilled)
    (hne : t.columns ≠ []) (hmark : (write t).head? ≠ some '\uFEFF') (reader : FileReader)
    {fileName : String} (hname : FileFormat.ofName fileName = .ok .csv)
    (contentType : Option String) :
    Upload.load reader ⟨fileName, contentType, Utf8.encode (write t)⟩ = .ok t.reread := by
  rw [Upload.load, hname]
  dsimp only
  rw [Encoding.decodeFile_encode reader.guess hmark, read_write ht hfilled hne hmark]
  rfl

/-- A table with columns, of which the first does not begin with a byte-order
mark and none has a blank name, is read back from its text, and from an uploaded
file with its text: no row is skipped or shifted, and each cell is what a file
holds for the text of the written one. -/
theorem written_table_reads_back {t : Table} (ht : t.WellFormed) (hfilled : t.NamesFilled)
    (hne : t.columns ≠ [])
    (hmark : ∀ name, t.names.head? = some name → name.toList.head? ≠ some '\uFEFF') :
    read (write t) = .ok ⟨.comma, t.reread, 0⟩ ∧
      ∀ (reader : FileReader) (fileName : String) (contentType : Option String),
        FileFormat.ofName fileName = .ok .csv →
        Upload.load reader ⟨fileName, contentType, Utf8.encode (write t)⟩ = .ok t.reread :=
  have hmark' := head?_write hne hmark
  ⟨read_write ht hfilled hne hmark',
    fun reader _ contentType hname => load_write ht hfilled hne hmark' reader hname contentType⟩

/-- One column, whose name and cells hold every other delimiter, quotes and line breaks. -/
def noteColumn : Table :=
  ⟨[⟨"a;\"\n|", [.text "x|y\r", .missing, .bool true, .text "p;q\t\"\"", .text "NA"]⟩], 5⟩

theorem noteColumn_reads_back :
    noteColumn.WellFormed ∧ noteColumn.NamesFilled ∧ noteColumn.columns ≠ [] ∧
      read (write noteColumn) = .ok ⟨.comma, noteColumn.reread, 0⟩ ∧
      FileFormat.ofName "notes.csv" = .ok .csv ∧
      Upload.load .western ⟨"notes.csv", none, Utf8.encode (write noteColumn)⟩ =
        .ok noteColumn.reread := by
  have hwell : noteColumn.WellFormed := ⟨by simp [noteColumn], by simp [noteColumn, Table.names]⟩
  have hfilled : noteColumn.NamesFilled := by
    intro name hname
    rw [List.mem_singleton.mp hname]
    decide
  have hmark : ∀ name, noteColumn.names.head? = some name → name.toList.head? ≠ some '\uFEFF' := by
    intro name hname
    rw [← Option.some.inj hname]
    decide
  have hname : FileFormat.ofName "notes.csv" = .ok .csv := by cbv
  have h := written_table_reads_back hwell hfilled (List.cons_ne_nil _ _) hmark
  exact ⟨hwell, hfilled, List.cons_ne_nil _ _, h.1, hname, h.2 _ "notes.csv" none hname⟩

end Csv

end Datasheet
