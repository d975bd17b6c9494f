import Datasheet.Proofs.Csv.Download

/-!
# Texts with and without records

The reader gives up nothing that it has read (`Reader.le_step`, `Reader.le_foldl`), and it is
before the first record as long as it has seen nothing but line breaks
(`Reader.finish_foldl_start_eq_nil_iff`). So a text is no table if it is line breaks only, but
for two byte-order marks that may stand before them; every other text is one, and each record
after the header is a row of it or counted as skipped (`read_cases`).
-/

namespace Datasheet.Csv

namespace Reader

/-! ## What has been read stays -/

theorem finish_eq (r : Reader) : r.finish = r.records.reverse ++
    if r.place = .recordStart then [] else [(r.field.reverse :: r.fields).reverse] := by
  rw [finish]
  split <;> simp [endRecord]

theorem finish_endRecord {r : Reader} (h : r.place ≠ .recordStart) :
    r.endRecord.finish = r.finish := by
  have hstart : r.endRecord.place = .recordStart := rfl
  rw [finish, finish, if_pos hstart, if_neg h]

/-- How many fields the first record has so far. -/
def width (r : Reader) : Nat := (r.finish.head?.map List.length).getD 0

theorem le_of_records {r r' : Reader} (hrecords : r'.records = r.records)
    (hplace : r'.place ≠ .recordStart) (hfields : r.fields.length ≤ r'.fields.length) :
    r.width ≤ r'.width ∧ r.finish.length ≤ r'.finish.length ∧
      r.records.length ≤ r'.records.length := by
  refine ⟨?_, ?_, Nat.le_of_eq (by rw [hrecords])⟩
  · rw [width, width, finish_eq, finish_eq, if_neg hplace, hrecords]
    cases r.records.reverse with
    | nil => split <;> simp [hfields]
    | cons first rest => exact Nat.le_refl _
  · rw [finish_eq, finish_eq, if_neg hplace, hrecords, List.length_append, List.length_append]
    split <;> simp

/-- The first record only grows, and the records only become more. -/
theorem le_step (d : Char) (r : Reader) (c : Char) :
    r.width ≤ (step d r c).width ∧ r.finish.length ≤ (step d r c).finish.length ∧
      r.records.length ≤ (step d r c).records.length := by
  have hmoves := moves_step d r c
  generalize step d r c = r' at hmoves
  cases hmoves with
  | stay => exact ⟨Nat.le_refl _, Nat.le_refl _, Nat.le_refl _⟩
  | within hplace => exact le_of_records rfl hplace (Nat.le_refl _)
  | endField => exact le_of_records rfl (by simp [endField]) (Nat.le_succ _)
  | endRecord hplace =>
    rw [width, width, finish_endRecord hplace]
    exact ⟨Nat.le_refl _, Nat.le_refl _, Nat.le_succ _⟩

theorem le_foldl (d : Char) (cs : List Char) (r : Reader) :
    r.width ≤ (cs.foldl (step d) r).width ∧
      r.finish.length ≤ (cs.foldl (step d) r).finish.length := by
  induction cs generalizing r with
  | nil => exact ⟨Nat.le_refl _, Nat.le_refl _⟩
  | cons c cs ih =>
    obtain ⟨hwidth, hlength, -⟩ := le_step d r c
    obtain ⟨hwidth', hlength'⟩ := ih (step d r c)
    exact ⟨Nat.le_trans hwidth hwidth', Nat.le_trans hlength hlength'⟩

/-! ## The first record -/

/-- Any character but a line break begins a record. -/
theorem finish_step_start_ne_nil {d c : Char} (hc : isBreak c = false) :
    (step d start c).finish ≠ [] := by
  have hplace : (step d start c).place ≠ .recordStart := by
    rw [step]
    simp only [start, hc, Bool.false_eq_true, ↓reduceIte]
    split
    · simp
    · rw [stepBare, hc]
      split <;> simp [endField, push]
  simp [finish_eq, hplace]

/-- There is a record unless all characters are line breaks. By induction on them: the reader
is still at its start, or what it has read stays. -/
theorem finish_foldl_start_eq_nil_iff {d : Char} {cs : List Char} :
    (cs.foldl (step d) start).finish = [] ↔ ∀ c ∈ cs, isBreak c = true := by
  induction cs with
  | nil => exact iff_of_true rfl (List.forall_mem_nil _)
  | cons c cs ih =>
    rw [List.foldl_cons, List.forall_mem_cons]
    cases hc : isBreak c with
    | true =>
      have hstep : step d start c = start := by simp [step, start, hc]
      rw [hstep, ih]
      simp
    | false =>
      have hfirst := List.length_pos_iff.mpr (finish_step_start_ne_nil (d := d) hc)
      have hlength := (le_foldl d cs (step d start c)).2
      refine iff_of_false ?_ (by simp)
      rw [← List.length_eq_zero_iff]
      omega

end Reader

/-! ## Texts -/

/-- The records of a text that has no byte-order mark, or has lost it. -/
def unmarkedRecords (d : Char) (text : List Char) : List (List (List Char)) :=
  (text.foldl (Reader.step d) .start).finish

theorem records_eq (d : Char) (text : List Char) :
    records d text = unmarkedRecords d (dropMark text) := rfl

theorem unmarkedRecords_eq_nil_iff {d : Char} {text : List Char} :
    unmarkedRecords d text = [] ↔ ∀ c ∈ text, c = '\n' ∨ c = '\r' := by
  rw [unmarkedRecords, Reader.finish_foldl_start_eq_nil_iff]
  simp [isBreak]

theorem rowCount_tableOf (header : List (List Char)) (rows : List (List (List Char))) :
    (tableOf header rows).rowCount = rows.length := List.length_map _

/-- A text is no table if, after up to two byte-order marks, there are only line breaks in it,
and for no other reason. Every other text is a table with a column, and the records after the
first are its rows and those that are skipped. -/
theorem read_cases (content : List Char) :
    let text := dropMark (dropMark content)
    (∀ f, read content = .error f ↔ (∀ c ∈ text, c = '\n' ∨ c = '\r') ∧
        f = ⟨.malformedFile, "No columns to parse from file"⟩) ∧
      ((∃ c ∈ text, c ≠ '\n' ∧ c ≠ '\r') → ∃ doc, read content = .ok doc ∧
        doc.table.columns ≠ [] ∧
        doc.table.rowCount + doc.skipped =
          (unmarkedRecords doc.delimiter.char text).tail.length) := by
  intro text
  have hnil : records (sniff (dropMark content)).char (dropMark content) = [] ↔
      ∀ c ∈ text, c = '\n' ∨ c = '\r' := by
    rw [records_eq]
    exact unmarkedRecords_eq_nil_iff
  cases hrecords : records (sniff (dropMark content)).char (dropMark content) with
  | nil =>
    have hread : read content = .error noColumns := by rw [read, readWith, hrecords]
    have hall := hnil.mp hrecords
    refine ⟨fun f => ?_, fun hother => ?_⟩
    · rw [hread, Except.error.injEq, eq_comm]
      exact (and_iff_right hall).symm
    · obtain ⟨c, hc, hother⟩ := hother
      exact absurd (hall c hc) (by simpa using hother)
  | cons header rows =>
    have hread : read content = .ok ⟨sniff (dropMark content),
        tableOf header (rows.filter (·.length = header.length)),
        rows.length - (rows.filter (·.length = header.length)).length⟩ := by
      rw [read, readWith, hrecords]
    have hother : ¬ ∀ c ∈ text, c = '\n' ∨ c = '\r' := by
      rw [← hnil, hrecords]
      exact List.cons_ne_nil header rows
    have hheader := ne_nil_of_mem_records (hrecords ▸ List.mem_cons_self)
    refine ⟨fun f => iff_of_false (by simp [hread]) fun h => hother h.1, fun _ => ?_⟩
    refine ⟨_, hread, columns_tableOf_ne_nil hheader _, ?_⟩
    show (tableOf header _).rowCount + (rows.length - _) = _
    rw [rowCount_tableOf, ← records_eq, hrecords, List.tail_cons]
    exact Nat.add_sub_of_le (List.length_filter_le _ _)

/-- Two marks, empty lines, a header with a mark of its own, and a quote that nothing closes. -/
def markedText : List Char := "\uFEFF\uFEFF\r\n\r\uFEFFa;b\r1;2\n\"c;".toList

/-- Two marks, and then line breaks only. -/
def markedBreaks : List Char := ['\uFEFF', '\uFEFF', '\r', '\n', '\n']

theorem read_markedText :
    (∃ c ∈ dropMark (dropMark markedText), c ≠ '\n' ∧ c ≠ '\r') ∧
      (∃ doc, read markedText = .ok doc ∧ doc.table.columns ≠ [] ∧
        doc.table.rowCount + doc.skipped = 2) ∧
      read markedBreaks = .error ⟨.malformedFile, "No columns to parse from file"⟩ := by
  have hother : ∃ c ∈ dropMark (dropMark markedText), c ≠ '\n' ∧ c ≠ '\r' :=
    ⟨'a', by decide, by decide, by decide⟩
  have hbreaks : ∀ c ∈ dropMark (dropMark markedBreaks), c = '\n' ∨ c = '\r' := by
    simp [markedBreaks, dropMark]
  have hlength : ∀ d : Delimiter,
      (unmarkedRecords d.char (dropMark (dropMark markedText))).tail.length = 2 := by
    intro d
    cases d <;> decide
  obtain ⟨doc, hread, hcolumns, hcount⟩ := (read_cases markedText).2 hother
  have hempty := ((read_cases markedBreaks).1 _).mpr ⟨hbreaks, rfl⟩
  rw [hlength] at hcount
  exact ⟨hother, ⟨doc, hread, hcolumns, hcount⟩, hempty⟩

end Datasheet.Csv
