import Datasheet.Proofs.Csv.Document
import Datasheet.Proofs.Csv.Records

/-!
# Texts of one column

If no candidate splits the header record, a text counts as comma-separated unless another
delimiter stands outside quotes in its first line. Quotes are counted there, while the
reader tells them by their place; in the first field of all the two agree
(`Reader.Tracks`). So such a delimiter splits the header record, unless that has ended
before it:

* `occursUnquoted_eq_false`: there is none in a first line that holds no second record;
* `read_singleColumn`: a text of one column keeps its rows then, whatever delimiters other
  than the comma are in them.

A first line ends with a line feed, but a record also with a carriage return alone.
-/

namespace Datasheet.Csv

namespace Reader

/-! ## Later records -/

/-- After a record, a delimiter belongs to another one. -/
theorem one_lt_length_finish {d : Char} (hd : Delimits d) {cs : List Char} (hmem : d ∈ cs)
    {r : Reader} (hr : 0 < r.records.length) : 1 < (cs.foldl (step d) r).finish.length := by
  induction cs generalizing r with
  | nil => cases hmem
  | cons c cs ih =>
    rw [List.foldl_cons]
    rcases List.mem_cons.mp hmem with rfl | hmem
    · refine Nat.lt_of_lt_of_le ?_ (le_foldl d cs (step d r d)).2
      by_cases hquoted : r.place = .quoted
      · have hstep : step d r d = r.push .quoted d := by
          rw [step, hquoted]
          simp [hd.ne_quote]
        rw [hstep, finish_eq]
        simpa [push] using hr
      · rw [step_delimiter hd hquoted, finish_eq]
        simpa [endField] using hr
    · exact ih hmem (Nat.lt_of_lt_of_le hr (le_step d r c).2.2)

/-! ## Quotes in the first field -/

/-- The places in the first field of all that the reader can be at, by whether the quotes
in it leave one open. In the unquoted part quotes mean nothing, so there can be any. -/
def OpenAt (quoted : Bool) : Place → Prop
  | .recordStart | .quoteSeen => quoted = false
  | .quoted => quoted = true
  | .bare => True
  | .fieldStart => False

/-- The reader is in the first field of all, where quotes are counted as it takes them. -/
structure Tracks (r : Reader) (quoted : Bool) : Prop where
  records : r.records = []
  fields : r.fields = []
  place : OpenAt quoted r.place

theorem tracks_start : Tracks start false := ⟨rfl, rfl, rfl⟩

variable {r : Reader} {quoted : Bool}

theorem one_lt_width_endField (hrecords : r.records = []) : 1 < r.endField.width := by
  simp [width, finish_eq, endField, hrecords]

/-- Once the first field has ended, the first record is wider than one field. -/
theorem one_lt_width_foldl_endField (hrecords : r.records = []) (d : Char) (cs : List Char) :
    1 < (cs.foldl (step d) r.endField).width :=
  Nat.lt_of_lt_of_le (one_lt_width_endField hrecords) (le_foldl d cs r.endField).1

/-- A quote has the same effect on both, unless the first field has ended. -/
theorem Tracks.step (h : Tracks r quoted) (d : Char) (c : Char) :
    Tracks (step d r c) (if c = '"' then !quoted else quoted) ∨ 1 < (step d r c).width ∨
      0 < (step d r c).records.length := by
  obtain ⟨hrecords, hfields, hopen⟩ := h
  have hbare : ∀ quoted', Tracks (stepBare d r c) quoted' ∨ 1 < (stepBare d r c).width ∨
      0 < (stepBare d r c).records.length := by
    intro quoted'
    rw [stepBare]
    split
    · exact .inr (.inl (one_lt_width_endField hrecords))
    · split
      · exact .inr (.inr (Nat.succ_pos _))
      · exact .inl ⟨hrecords, hfields, trivial⟩
  rw [Reader.step]
  cases hplace : r.place with
  | recordStart =>
    have hquoted : quoted = false := by rwa [hplace] at hopen
    dsimp only
    split
    · rename_i hbreak
      have hquote : c ≠ '"' := by
        rintro rfl
        cases hbreak
      rw [if_neg hquote]
      exact .inl ⟨hrecords, hfields, hopen⟩
    · split
      · exact .inl ⟨hrecords, hfields, by rw [hquoted]; rfl⟩
      · exact hbare _
  | fieldStart => exact absurd hopen (by rw [hplace]; exact id)
  | bare => exact hbare _
  | quoted =>
    have hquoted : quoted = true := by rwa [hplace] at hopen
    dsimp only
    split
    · exact .inl ⟨hrecords, hfields, by rw [hquoted]; rfl⟩
    · exact .inl ⟨hrecords, hfields, hquoted⟩
  | quoteSeen =>
    have hquoted : quoted = false := by rwa [hplace] at hopen
    dsimp only
    split
    · exact .inl ⟨hrecords, hfields, by rw [hquoted]; rfl⟩
    · exact hbare _

/-- A delimiter outside the quotes of a line splits its first record or belongs to the
second. -/
theorem Tracks.foldl {d : Delimiter} {cs : List Char} (h : Tracks r quoted)
    (hoccurs : occursUnquoted d quoted cs = true) :
    1 < (cs.foldl (Reader.step d.char) r).width ∨
      1 < (cs.foldl (Reader.step d.char) r).finish.length := by
  induction cs generalizing r quoted with
  | nil => cases hoccurs
  | cons c cs ih =>
    rw [occursUnquoted, Bool.or_eq_true, Bool.and_eq_true, Bool.not_eq_true', decide_eq_true_eq]
      at hoccurs
    rw [List.foldl_cons]
    obtain ⟨hwidth, -⟩ := le_foldl d.char cs (Reader.step d.char r c)
    rcases hoccurs with ⟨hunquoted, rfl⟩ | hoccurs
    · rw [if_neg d.delimits.ne_quote] at hunquoted
      have hplace : r.place ≠ .quoted := by
        intro hplace
        have hopen := h.place
        rw [hplace, hunquoted] at hopen
        cases hopen
      left
      rw [step_delimiter d.delimits hplace]
      exact one_lt_width_foldl_endField h.records d.char cs
    · rcases h.step d.char c with htracks | hwide | hsecond
      · exact ih htracks hoccurs
      · exact .inl (Nat.lt_of_lt_of_le hwide hwidth)
      · right
        refine one_lt_length_finish d.delimits ?_ hsecond
        by_contra hmem
        rw [occursUnquoted_of_notMem hmem] at hoccurs
        cases hoccurs

end Reader

/-! ## Texts -/

/-- A text up to its first line feed. -/
def firstLine (text : List Char) : List Char := text.takeWhile (· ≠ '\n')

theorem occursUnquoted_dropMark (d : Delimiter) (quoted : Bool) (cs : List Char) :
    occursUnquoted d quoted (dropMark cs) = occursUnquoted d quoted cs := by
  rw [dropMark.eq_def]
  split
  · cases d <;> cases quoted <;> rfl
  · rfl

theorem dropMark_append {line : List Char} (hne : line ≠ []) (rest : List Char) :
    dropMark (line ++ rest) = dropMark line ++ rest := by
  obtain ⟨c, cs, rfl⟩ := List.exists_cons_of_ne_nil hne
  by_cases hc : c = '\uFEFF'
  · rw [hc]
    rfl
  · rw [dropMark_eq_self (by simpa using hc), dropMark_eq_self (by simpa using hc)]

/-- In a first line with one record at most, a delimiter that does not split the header
record is within quotes. -/
theorem occursUnquoted_eq_false {text : List Char} {d : Delimiter}
    (hwidth : headerWidth text d ≤ 1) (hline : (records d.char (firstLine text)).length ≤ 1) :
    occursUnquoted d false (firstLine text) = false := by
  rw [← Bool.not_eq_true]
  intro hoccurs
  have hne : firstLine text ≠ [] := fun hnil => by
    rw [hnil] at hoccurs
    cases hoccurs
  have htext : dropMark text = dropMark (firstLine text) ++ text.dropWhile (· ≠ '\n') := by
    rw [← dropMark_append hne, firstLine, List.takeWhile_append_dropWhile]
  rw [← occursUnquoted_dropMark] at hoccurs
  rcases Reader.tracks_start.foldl hoccurs with hwide | hsecond
  · rw [headerWidth, records, htext, List.foldl_append] at hwidth
    exact absurd (Nat.lt_of_lt_of_le hwide (Reader.le_foldl _ _ _).1) (Nat.not_lt.mpr hwidth)
  · exact absurd hsecond (Nat.not_lt.mpr hline)

/-! ## Other delimiters in the rows -/

/-- A character, or a space in the place of a delimiter other than the comma. -/
def blot (c : Char) : Char := if c = ';' ∨ c = '\t' ∨ c = '|' then ' ' else c

theorem blot_eq_iff {c mark : Char} (hmark : mark ∉ [';', '\t', '|', ' ']) :
    blot c = mark ↔ c = mark := by
  simp only [List.mem_cons, List.not_mem_nil, or_false, not_or] at hmark
  rw [blot]
  split
  · rename_i hc
    refine iff_of_false (Ne.symm hmark.2.2.2) ?_
    rintro rfl
    rcases hc with hc | hc | hc
    · exact hmark.1 hc
    · exact hmark.2.1 hc
    · exact hmark.2.2.1 hc
  · rfl

/-- The reader after the same characters, those in the fields blotted. -/
def Reader.blotted (r : Reader) : Reader where
  place := r.place
  field := r.field.map blot
  fields := r.fields.map (·.map blot)
  records := r.records.map (·.map (·.map blot))

theorem Reader.step_blotted (r : Reader) (c : Char) :
    step ',' r.blotted (blot c) = (step ',' r c).blotted := by
  have hcomma : blot c = ',' ↔ c = ',' := blot_eq_iff (by decide)
  have hquote : blot c = '"' ↔ c = '"' := blot_eq_iff (by decide)
  have hbreak : isBreak (blot c) = isBreak c := by
    rw [isBreak, isBreak, decide_eq_decide.mpr (blot_eq_iff (by decide)),
      decide_eq_decide.mpr (blot_eq_iff (by decide))]
  have hbare : stepBare ',' r.blotted (blot c) = (stepBare ',' r c).blotted := by
    simp only [stepBare, hcomma, hbreak]
    split
    · simp [endField, blotted]
    · split <;> simp [endRecord, push, blotted]
  rw [step, step, show r.blotted.place = r.place from rfl]
  simp only [hquote, hbreak, hbare]
  cases r.place <;> dsimp only <;> repeat' split
  all_goals rfl

theorem Reader.foldl_blotted (cs : List Char) (r : Reader) :
    (cs.map blot).foldl (step ',') r.blotted = (cs.foldl (step ',') r).blotted := by
  induction cs generalizing r with
  | nil => rfl
  | cons c cs ih => rw [List.map_cons, List.foldl_cons, List.foldl_cons, step_blotted, ih]

theorem Reader.finish_blotted (r : Reader) :
    r.blotted.finish = r.finish.map (·.map (·.map blot)) := by
  rw [finish_eq, finish_eq, show r.blotted.place = r.place from rfl]
  split <;> simp [blotted]

theorem dropMark_map_blot (text : List Char) :
    dropMark (text.map blot) = (dropMark text).map blot := by
  cases text with
  | nil => rfl
  | cons c cs =>
    by_cases hc : c = '\uFEFF'
    · rw [hc]
      rfl
    · have hblot : blot c ≠ '\uFEFF' := mt (blot_eq_iff (by decide)).mp hc
      rw [dropMark_eq_self (by simpa using hblot), dropMark_eq_self (by simpa using hc)]

theorem records_map_blot (text : List Char) :
    records ',' (text.map blot) = (records ',' text).map (·.map (·.map blot)) := by
  have hfold := Reader.foldl_blotted (dropMark text) .start
  rw [show Reader.start.blotted = Reader.start from rfl] at hfold
  rw [records, records, dropMark_map_blot, hfold, Reader.finish_blotted]

/-- A text counts as comma-separated if no candidate splits its header record and its first
line holds no second record. Then the rows that the comma does not split are kept, and the
others are skipped; other delimiters do not count, since all records would be as wide
without them. -/
theorem read_singleColumn {text : List Char} (hwidth : ∀ d, headerWidth text d ≤ 1)
    (hline : ∀ d : Delimiter, (records d.char (firstLine text)).length ≤ 1) :
    sniff text = .comma ∧
      (∀ content header rows, dropMark content = text → records ',' text = header :: rows →
        read content = .ok {
          delimiter := .comma
          table := tableOf header (rows.filter (·.length = 1))
          skipped := rows.countP (·.length ≠ 1) }) ∧
      (records ',' (text.map blot)).map List.length = (records ',' text).map List.length := by
  have hsniff : sniff text = .comma :=
    sniff_of_narrow hwidth fun d _ => occursUnquoted_eq_false (hwidth d) (hline d)
  refine ⟨hsniff, fun content header rows hcontent hrecords => ?_, ?_⟩
  · have hheader : header.length = 1 := by
      have hle := hwidth .comma
      rw [headerWidth_of_head? (by rw [Delimiter.char, hrecords]; rfl)] at hle
      have hne := ne_nil_of_mem_records (hrecords ▸ List.mem_cons_self)
      exact Nat.le_antisymm hle (List.length_pos_iff.mpr hne)
    rw [read, hcontent, hsniff, readWith, Delimiter.char, hrecords]
    dsimp only
    rw [length_sub_length_filter, hheader]
  · rw [records_map_blot, List.map_map]
    refine List.map_congr_left fun record _ => ?_
    rw [Function.comp_apply, List.length_map]

/-- A column of notes that hold every other delimiter, and a row too wide for it. -/
def notes : List Char := "note\r\nx; y;z\r\n\"p|q\"\tr\r\n1,2\r\n".toList

theorem read_notes :
    (∀ d, headerWidth notes d ≤ 1) ∧
      (∀ d : Delimiter, (records d.char (firstLine notes)).length ≤ 1) ∧
      sniff notes = .comma ∧
      read notes = .ok ⟨.comma, ⟨[⟨"note", [.text "x; y;z", .text "p|q\tr"]⟩], 2⟩, 1⟩ := by
  have hwidth : ∀ d, headerWidth notes d ≤ 1 := by intro d; cases d <;> decide
  have hline : ∀ d : Delimiter, (records d.char (firstLine notes)).length ≤ 1 := by
    intro d
    cases d <;> decide
  obtain ⟨hsniff, hread, -⟩ := read_singleColumn hwidth hline
  have hrecords : records ',' notes = ["note".toList] ::
      [["x; y;z".toList], ["p|q\tr".toList], ["1".toList, "2".toList]] := by decide
  exact ⟨hwidth, hline, hsniff, hread notes _ _ rfl hrecords⟩

/-- The header ends with a carriage return, its line does not: the delimiter in the only row
is taken for that of the text, and the row is skipped. -/
theorem read_carriageReturns :
    (∀ d, headerWidth "a\rb;c\r".toList d ≤ 1) ∧ sniff "a\rb;c\r".toList = .semicolon ∧
      read "a\rb;c\r".toList = .ok ⟨.semicolon, ⟨[⟨"a", []⟩], 0⟩, 1⟩ := by
  have hsniff : sniff "a\rb;c\r".toList = .semicolon := by decide +kernel
  refine ⟨fun d => by cases d <;> decide, hsniff, ?_⟩
  have hmark : dropMark "a\rb;c\r".toList = "a\rb;c\r".toList := rfl
  rw [read, hmark, hsniff]
  rfl

end Datasheet.Csv
