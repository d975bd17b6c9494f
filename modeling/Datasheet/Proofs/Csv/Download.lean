import Datasheet.Proofs.Csv.Conservation
import Datasheet.Proofs.Csv.RoundTrip
import Mathlib.Data.List.Permutation

/-!
# Saving a table that was read

A table that was read from a text is read again from the text that it is written
as, unless that text begins with a byte-order mark, which every reader drops.

* `reread_tableOf`: the cells of a file are read again as they are;
* `count_write_le`: a table that was read is written with no more byte-order marks
  than the text had after its first one, so that none of them can be dropped
  without changing the table;
* `readTable_write_iff`: hence a table is read again as it is if and only if its
  text does not begin with a mark.
-/

namespace Datasheet

theorem Cell.ofField_display_ofField (s : String) : ofField (ofField s).display = ofField s := by
  by_cases h : s ∈ missingTexts
  · have hmissing : ofField s = missing := if_pos h
    rw [hmissing]
    rfl
  · have htext : ofField s = text s := if_neg h
    rw [htext]
    exact htext

/-- A table is left alone if each cell is the one that its text is read as. -/
theorem Table.reread_eq_self {t : Table}
    (h : ∀ c ∈ t.columns, ∀ cell ∈ c.cells, Cell.ofField cell.display = cell) : t.reread = t := by
  have hcolumn : ∀ c ∈ t.columns,
      (⟨c.name, c.cells.map fun cell => .ofField cell.display⟩ : Column) = c := by
    intro c hc
    rw [List.map_congr_left (h c hc), List.map_id']
  rw [reread, List.map_congr_left hcolumn, List.map_id']

namespace Csv

/-! ## What is read -/

namespace Reader

/-- A record has a field as soon as it is one. -/
theorem ne_nil_of_mem_step {d : Char} {r : Reader} (hr : ∀ record ∈ r.records, record ≠ [])
    (c : Char) : ∀ record ∈ (step d r c).records, record ≠ [] := by
  have hmoves := moves_step d r c
  generalize step d r c = r' at hmoves
  cases hmoves with
  | stay | within | endField => exact hr
  | endRecord =>
    intro record hrecord
    rcases List.mem_cons.mp hrecord with rfl | hrecord
    · simp
    · exact hr record hrecord

theorem ne_nil_of_mem_foldl {d : Char} (cs : List Char) {r : Reader}
    (hr : ∀ record ∈ r.records, record ≠ []) :
    ∀ record ∈ (cs.foldl (step d) r).records, record ≠ [] := by
  induction cs generalizing r with
  | nil => exact hr
  | cons c cs ih => exact ih (ne_nil_of_mem_step hr c)

end Reader

theorem ne_nil_of_mem_records {d : Char} {text : List Char} {record : List (List Char)}
    (h : record ∈ records d text) : record ≠ [] := by
  have hfold := Reader.ne_nil_of_mem_foldl (d := d) (dropMark text) (r := Reader.start)
    (List.forall_mem_nil _)
  rw [records, Reader.finish, List.mem_reverse] at h
  split at h
  · exact hfold record h
  · rcases List.mem_cons.mp h with rfl | h
    · simp
    · exact hfold record h

/-- What a text is read as: the table of some of its records, all as wide as the
first one. -/
theorem readTable_eq_ok {s : String} {t : Table} (h : readTable s = .ok t) :
    ∃ header rows, t = tableOf header rows ∧ header ≠ [] ∧
      (∀ row ∈ rows, row.length = header.length) ∧
      (header :: rows).Sublist
        (records (sniff (dropMark s.toList)).char (dropMark s.toList)) := by
  rw [readTable, read, readWith] at h
  cases hrecords : records (sniff (dropMark s.toList)).char (dropMark s.toList) with
  | nil =>
    rw [hrecords] at h
    cases h
  | cons header rows =>
    rw [hrecords] at h
    exact ⟨header, rows.filter (·.length = header.length), (Except.ok.inj h).symm,
      ne_nil_of_mem_records (hrecords ▸ List.mem_cons_self), by simp,
      List.filter_sublist.cons_cons header⟩

theorem tableOf_wellFormed (header : List (List Char)) (rows : List (List (List Char))) :
    (tableOf header rows).WellFormed := Table.ofRows_wellFormed _ _

theorem tableOf_namesFilled (header : List (List Char)) (rows : List (List (List Char))) :
    (tableOf header rows).NamesFilled := Table.ofRows_namesFilled _ _

theorem columns_tableOf_ne_nil {header : List (List Char)} (h : header ≠ [])
    (rows : List (List (List Char))) : (tableOf header rows).columns ≠ [] := by
  have hlength : (tableOf header rows).columns.length = header.length := by
    simp [tableOf, Table.ofRows, uniqueNames, length_uniqueNamesFrom]
  exact List.ne_nil_of_length_pos (hlength ▸ List.length_pos_iff.mpr h)

/-- The cells of a file are read again as they are. -/
theorem reread_tableOf (header : List (List Char)) (rows : List (List (List Char))) :
    (tableOf header rows).reread = tableOf header rows := by
  refine Table.reread_eq_self fun c hc cell hcell => ?_
  obtain ⟨i, hi, rfl⟩ := List.mem_mapIdx.mp hc
  obtain ⟨row, hrow, rfl⟩ := List.mem_map.mp hcell
  obtain ⟨fields, -, rfl⟩ := List.mem_map.mp hrow
  rw [List.getElem?_map]
  cases fields[i]? with
  | none => rfl
  | some field => exact Cell.ofField_display_ofField _

/-! ## Marks -/

/-- The rows of a table that was read show the fields of its records. -/
theorem rowFields_tableOf {header : List (List Char)} {rows : List (List (List Char))}
    (h : ∀ row ∈ rows, row.length = header.length) :
    rowFields (tableOf header rows) =
      rows.map fun row => row.map fun field => (Cell.ofField (.ofList field)).display.toList := by
  rw [rowFields_eq (tableOf_wellFormed header rows)]
  refine List.ext_getElem (by simp [tableOf, Table.ofRows]) fun i h₁ h₂ => ?_
  have hi : i < rows.length := by simpa using h₂
  have hwidth := h rows[i] (List.getElem_mem hi)
  refine List.ext_getElem ?_ fun j h₃ h₄ => ?_
  · simp [tableOf, Table.ofRows, uniqueNames, length_uniqueNamesFrom, hwidth]
  · have hj : j < rows[i].length := by simpa using h₄
    simp [tableOf, Table.ofRows, hi, hj]

theorem count_flatten_map_le {x : Char} {f : List Char → List Char}
    (h : ∀ cs, (f cs).count x ≤ cs.count x) (fields : List (List Char)) :
    (fields.map f).flatten.count x ≤ fields.flatten.count x := by
  induction fields with
  | nil => exact Nat.le_refl _
  | cons field fields ih =>
    simp only [List.map_cons, List.flatten_cons, List.count_append]
    exact Nat.add_le_add (h field) ih

/-- A table that was read is written with no more byte-order marks than the text had
after its first one. -/
theorem count_write_le {s : String} {t : Table} (h : readTable s = .ok t) :
    (write t).count '\uFEFF' ≤ (dropMark s.toList).count '\uFEFF' := by
  obtain ⟨header, rows, rfl, hheader, hwidth, hsub⟩ := readTable_eq_ok h
  have hnames : (headerFields (tableOf header rows)).flatten.count '\uFEFF' ≤
      header.flatten.count '\uFEFF' := by
    have hline := count_uniqueNames_le (header.map String.ofList)
    have hid : String.toList ∘ String.ofList = id := funext fun _ => String.toList_ofList
    rw [List.map_map, hid, List.map_id] at hline
    rwa [headerFields, tableOf, Table.names_ofRows]
  have hrows : (rowFields (tableOf header rows)).flatten.flatten.count '\uFEFF' ≤
      rows.flatten.flatten.count '\uFEFF' := by
    rw [rowFields_tableOf hwidth, ← List.map_flatten]
    exact count_flatten_map_le (Cell.count_display_ofField_le _) _
  calc (write (tableOf header rows)).count '\uFEFF'
    _ = (headerFields (tableOf header rows)).flatten.count '\uFEFF' +
        (rowFields (tableOf header rows)).flatten.flatten.count '\uFEFF' := by
      rw [write_eq (columns_tableOf_ne_nil hheader rows), count_flatMap_writeRecord,
        List.flatten_cons, List.flatten_append, List.count_append]
    _ ≤ header.flatten.count '\uFEFF' + rows.flatten.flatten.count '\uFEFF' :=
      Nat.add_le_add hnames hrows
    _ = (header :: rows).flatten.flatten.count '\uFEFF' := by
      rw [List.flatten_cons, List.flatten_append, List.count_append]
    _ ≤ (records (sniff (dropMark s.toList)).char (dropMark s.toList)).flatten.flatten.count
        '\uFEFF' := hsub.flatten.flatten.count_le _
    _ ≤ (dropMark (dropMark s.toList)).count '\uFEFF' := count_records_le _ _ _
    _ ≤ (dropMark s.toList).count '\uFEFF' := (dropMark_suffix _).sublist.count_le _

/-! ## Reading again -/

/-- The reader drops the mark that a text begins with, and so cannot read a table
that is written as the same text. -/
theorem write_ne_of_mark {t t' : Table} (hmark : (write t).head? = some '\uFEFF')
    (h : readTable (.ofList (write t)) = .ok t') : write t' ≠ write t := by
  intro hsame
  have hle := count_write_le h
  rw [hsame, String.toList_ofList] at hle
  obtain ⟨rest, hrest⟩ := List.head?_eq_some_iff.mp hmark
  have hdrop : (dropMark (write t)).count '\uFEFF' < (write t).count '\uFEFF' := by
    rw [hrest, dropMark, List.count_cons_self]
    exact Nat.lt_succ_self _
  omega

theorem readTable_write {s : String} {t : Table} (h : readTable s = .ok t)
    (hmark : (write t).head? ≠ some '\uFEFF') : readTable (.ofList (write t)) = .ok t := by
  obtain ⟨header, rows, rfl, hheader, -⟩ := readTable_eq_ok h
  have hread := read_write (tableOf_wellFormed header rows) (tableOf_namesFilled header rows)
    (columns_tableOf_ne_nil hheader rows) hmark
  rw [readTable, String.toList_ofList, hread, reread_tableOf]
  rfl

/-- A table that was read from a text is read again from its own text, and written
again as that text, if and only if the text does not begin with a byte-order mark. -/
theorem readTable_write_iff {s : String} {t : Table} (h : readTable s = .ok t) :
    (readTable (.ofList (write t)) = .ok t ↔ (write t).head? ≠ some '\uFEFF') ∧
      ((readTable (.ofList (write t))).map write = .ok (write t) ↔
        (write t).head? ≠ some '\uFEFF') := by
  refine ⟨⟨fun hread hmark => write_ne_of_mark hmark hread rfl, readTable_write h⟩,
    fun hmap hmark => ?_, fun hmark => ?_⟩
  · cases hread : readTable (.ofList (write t)) with
    | error f =>
      rw [hread] at hmap
      cases hmap
    | ok t' =>
      rw [hread] at hmap
      exact write_ne_of_mark hmark hread (Except.ok.inj hmap)
  · rw [readTable_write h hmark]
    rfl

/-- A text with semicolons, repeated and blank headers, missing values, a row that
is too short and every form of line break. -/
def mixedText : String := "x;;x\r\n1;NA;\"a;b\"\r2;3\n;\"\"\"\";null"

def mixedTable : Table :=
  ⟨[⟨"x", [.text "1", .missing]⟩, ⟨"Unnamed: 1", [.missing, .text "\""]⟩,
    ⟨"x.1", [.text "a;b", .missing]⟩], 2⟩

theorem mixedTable_reads_back :
    readTable mixedText = .ok mixedTable ∧ (write mixedTable).head? ≠ some '\uFEFF' ∧
      readTable (.ofList (write mixedTable)) = .ok mixedTable := by
  have hread : readTable mixedText = .ok mixedTable := by cbv
  have hmark : (write mixedTable).head? ≠ some '\uFEFF' := by decide +kernel
  exact ⟨hread, hmark, (readTable_write_iff hread).1.mpr hmark⟩

/-- A text whose first header is in quotes and begins with a byte-order mark. -/
def quotedMark : String := "\"\uFEFFa\",b\n1,2\n"

def markedTable : Table := ⟨[⟨"\uFEFFa", [.text "1"]⟩, ⟨"b", [.text "2"]⟩], 1⟩

def unmarkedTable : Table := ⟨[⟨"a", [.text "1"]⟩, ⟨"b", [.text "2"]⟩], 1⟩

/-- The mark belongs to the name, but is dropped from the text of the table. -/
theorem quotedMark_lost :
    readTable quotedMark = .ok markedTable ∧
      readTable (.ofList (write markedTable)) = .ok unmarkedTable ∧
      unmarkedTable ≠ markedTable ∧ write unmarkedTable ≠ write markedTable := by
  have hwrite : write markedTable = "\uFEFFa,b\n1,2\n".toList := by cbv
  refine ⟨by cbv, ?_, by decide, by decide +kernel⟩
  rw [hwrite]
  cbv

end Csv

end Datasheet
