import Datasheet.Csv.Writer

/-!
# Reading encoded records

Text encodes records (`EncodesRecords`) if each field stands there as it is or
in quotes, with delimiters between the fields and a line break of any form after
each record. What a single character can do is said once (`Reader.moves_step`), for
whatever the reader keeps. Main lemmas, by induction on the text:

* `foldl_encodesField`, `foldl_encodesFields`, `foldl_encodesRecords`: the reader
  takes a field, the fields of a record and all records as what they encode;
* `records_encodesRecords`: so it reads exactly the records;
* `records_encodesFields`: if only the first record is known to be encoded, it is
  still the first that is read, whatever follows.
-/

namespace Datasheet.Csv

/-! ## Encoded text -/

/-- The line breaks that end a record. -/
inductive LineEnd where
  | lineFeed
  | carriageReturn
  | both
deriving DecidableEq

def LineEnd.text : LineEnd → List Char
  | lineFeed => ['\n']
  | carriageReturn => ['\r']
  | both => ['\r', '\n']

/-- A field as it is, if it holds nothing that means something else outside
quotes, or a field in quotes. -/
inductive EncodesField (d : Char) : List Char → List Char → Prop where
  | bare {field : List Char} (h : ∀ c ∈ field, c ≠ d ∧ c ≠ '"' ∧ isBreak c = false) :
      EncodesField d field field
  | quoted (field : List Char) : EncodesField d (quote field) field

/-- Fields with delimiters between them. -/
inductive EncodesFields (d : Char) : List Char → List (List Char) → Prop where
  | single {text field : List Char} (h : EncodesField d text field) :
      EncodesFields d text [field]
  | cons {text field texts : List Char} {fields : List (List Char)}
      (h : EncodesField d text field) (hs : EncodesFields d texts fields) :
      EncodesFields d (text ++ d :: texts) (field :: fields)

/-- Records with a line break after each, none of them an empty line. -/
inductive EncodesRecords (d : Char) : List Char → List (List (List Char)) → Prop where
  | nil : EncodesRecords d [] []
  | cons {text texts : List Char} {record : List (List Char)} {records : List (List (List Char))}
      (h : EncodesFields d text record) (hne : text ≠ []) (ending : LineEnd)
      (hs : EncodesRecords d texts records) :
      EncodesRecords d (text ++ ending.text ++ texts) (record :: records)

/-- Only an empty field is encoded by nothing. -/
theorem EncodesFields.eq_of_nil {d : Char} {fields : List (List Char)}
    (h : EncodesFields d [] fields) : fields = [[]] := by
  generalize htext : ([] : List Char) = text at h
  cases h with
  | single h =>
    cases h with
    | bare => rfl
    | quoted field => simp [quote] at htext
  | cons => simp at htext

/-- But for quotes, a field in quotes has its characters. -/
theorem filter_quote {p : Char → Bool} (hp : p '"' = false) (field : List Char) :
    (quote field).filter p = field.filter p := by
  have hchar : ∀ c, (if c = '"' then ['"', '"'] else [c]).filter p = [c].filter p := fun c => by
    by_cases hc : c = '"' <;> simp [hc, hp]
  have hbody : (field.flatMap fun c => if c = '"' then ['"', '"'] else [c]).filter p =
      field.filter p := by
    induction field with
    | nil => rfl
    | cons c cs ih =>
      rw [List.flatMap_cons, List.filter_append, hchar, ih, ← List.filter_append,
        List.singleton_append]
  simp [quote, hbody, hp]

/-! ## Single characters -/

/-- What can stand between fields: neither a quote nor a line break. -/
structure Delimits (d : Char) : Prop where
  ne_quote : d ≠ '"'
  not_break : isBreak d = false

theorem Delimiter.delimits (d : Delimiter) : Delimits d.char := by
  cases d <;> exact ⟨by decide, by decide⟩

namespace Reader

/-- What a character can do: nothing on an empty line, else it goes on with a field, of
which it is a part or not, or ends a field or a record. -/
inductive Moves (r : Reader) (c : Char) : Reader → Prop where
  | stay : Moves r c r
  | within {place : Place} {field : List Char} (hplace : place ≠ .recordStart)
      (hfield : field = r.field ∨ field = c :: r.field) : Moves r c { r with place, field }
  | endField : Moves r c r.endField
  | endRecord (hplace : r.place ≠ .recordStart) : Moves r c r.endRecord

theorem moves_step (d : Char) (r : Reader) (c : Char) : Moves r c (step d r c) := by
  have hbare : (isBreak c = true → r.place ≠ .recordStart) → Moves r c (stepBare d r c) := by
    intro hplace
    rw [stepBare]
    split
    · exact .endField
    · split
      · exact .endRecord (hplace ‹_›)
      · exact .within (by decide) (.inr rfl)
  rw [step]
  cases hplace : r.place with
  | recordStart =>
    dsimp only
    split
    · exact .stay
    · split
      · exact .within (by decide) (.inl rfl)
      · exact hbare fun hbreak => absurd hbreak ‹_›
  | fieldStart =>
    dsimp only
    split
    · exact .within (by decide) (.inl rfl)
    · exact hbare fun _ => by simp [hplace]
  | bare => exact hbare fun _ => by simp [hplace]
  | quoted =>
    dsimp only
    split
    · exact .within (by decide) (.inl rfl)
    · exact .within (by decide) (.inr rfl)
  | quoteSeen =>
    dsimp only
    split
    · exact .within (by decide) (.inr rfl)
    · exact hbare fun _ => by simp [hplace]

/-- The reader between records, after these (the last of them first). -/
def between (older : List (List (List Char))) : Reader := ⟨.recordStart, [], [], older⟩

theorem step_delimiter {d : Char} (hd : Delimits d) {r : Reader} (hr : r.place ≠ .quoted) :
    step d r d = r.endField := by
  rw [step]
  cases hplace : r.place <;>
    simp_all [stepBare, hd.ne_quote, hd.not_break]

theorem step_break {d : Char} (hd : Delimits d) {r : Reader} (hquoted : r.place ≠ .quoted)
    (hstart : r.place ≠ .recordStart) {c : Char} (hc : isBreak c = true) :
    step d r c = r.endRecord := by
  have hne : c ≠ d := fun e => by rw [e, hd.not_break] at hc; cases hc
  have hquote : c ≠ '"' := fun e => by rw [e] at hc; cases hc
  rw [step]
  cases hplace : r.place <;> simp_all [stepBare]

/-! ## Fields -/

theorem foldl_bare {d : Char} {cs : List Char}
    (h : ∀ c ∈ cs, c ≠ d ∧ c ≠ '"' ∧ isBreak c = false) (r : Reader) (hr : r.place = .bare) :
    cs.foldl (step d) r = { r with field := cs.reverse ++ r.field } := by
  induction cs generalizing r with
  | nil => rfl
  | cons c cs ih =>
    obtain ⟨hd, -, hbreak⟩ := h c List.mem_cons_self
    have hstep : step d r c = r.push .bare c := by
      rw [step, hr]
      simp [stepBare, hd, hbreak]
    rw [List.foldl_cons, hstep, ih (fun c' hc' => h c' (List.mem_cons_of_mem _ hc')) _ rfl]
    simp [push, hr]

theorem foldl_doubled {d : Char} (cs : List Char) (r : Reader) (hr : r.place = .quoted) :
    (cs.flatMap fun c => if c = '"' then ['"', '"'] else [c]).foldl (step d) r =
      { r with field := cs.reverse ++ r.field } := by
  induction cs generalizing r with
  | nil => rfl
  | cons c cs ih =>
    have hstep : (if c = '"' then ['"', '"'] else [c]).foldl (step d) r = r.push .quoted c := by
      by_cases hc : c = '"' <;> simp [hc, step, hr, push]
    rw [List.flatMap_cons, List.foldl_append, hstep, ih _ rfl]
    simp [push, hr]

/-- A field is taken from its start on; nothing is left to do but to end it. -/
theorem foldl_encodesField {d : Char} {text field : List Char} (h : EncodesField d text field)
    {r : Reader} (hr : r.place = .recordStart ∨ r.place = .fieldStart) (hfield : r.field = []) :
    ∃ place, text.foldl (step d) r = { r with place, field := field.reverse } ∧
      place ≠ .quoted ∧ (place = .recordStart → r.place = .recordStart ∧ text = []) := by
  cases h with
  | bare h =>
    cases text with
    | nil =>
      refine ⟨r.place, ?_, ?_, fun e => ⟨e, rfl⟩⟩
      · rw [List.foldl_nil, List.reverse_nil, ← hfield]
      · rcases hr with hr | hr <;> simp [hr]
    | cons c cs =>
      obtain ⟨hd, hquote, hbreak⟩ := h c List.mem_cons_self
      have hstep : step d r c = r.push .bare c := by
        rw [step]
        rcases hr with hr | hr <;> simp [hr, stepBare, hd, hquote, hbreak]
      refine ⟨.bare, ?_, by decide, by simp⟩
      have hcs : ∀ c' ∈ cs, c' ≠ d ∧ c' ≠ '"' ∧ isBreak c' = false :=
        fun c' hc' => h c' (List.mem_cons_of_mem c hc')
      rw [List.foldl_cons, hstep, foldl_bare hcs _ rfl]
      simp [push, hfield]
  | quoted =>
    have hopen : step d r '"' = { r with place := .quoted } := by
      rw [step]
      rcases hr with hr | hr <;> simp [hr, isBreak]
    refine ⟨.quoteSeen, ?_, by decide, by simp⟩
    rw [quote, List.cons_append, List.foldl_cons, hopen, List.foldl_append,
      foldl_doubled _ _ rfl, hfield, List.append_nil]
    simp [step]

/-! ## Records -/

/-- The fields of a record are taken behind those that the reader has. -/
theorem foldl_encodesFields {d : Char} (hd : Delimits d) {text : List Char}
    {fields : List (List Char)} (h : EncodesFields d text fields) {r : Reader}
    (hr : r.place = .recordStart ∨ r.place = .fieldStart) (hfield : r.field = []) :
    ∃ r' : Reader, text.foldl (step d) r = r' ∧ r'.place ≠ .quoted ∧
      (r'.place = .recordStart → r.place = .recordStart ∧ text = []) ∧
      (r'.field.reverse :: r'.fields).reverse = r.fields.reverse ++ fields ∧
      r'.records = r.records := by
  induction h generalizing r with
  | single h =>
    obtain ⟨place, hfold, hquoted, hstart⟩ := foldl_encodesField h hr hfield
    exact ⟨_, hfold, hquoted, hstart, by simp, rfl⟩
  | cons h _ ih =>
    obtain ⟨place, hfold, hquoted, -⟩ := foldl_encodesField h hr hfield
    rw [List.foldl_append, hfold, List.foldl_cons, step_delimiter hd hquoted]
    obtain ⟨r', hfold', hquoted', hstart', hfields', hrecords'⟩ :=
      ih (r := endField { r with place, field := _ }) (.inr rfl) rfl
    refine ⟨r', hfold', hquoted', fun e => absurd (hstart' e).1 (by simp [endField]), ?_, hrecords'⟩
    rw [hfields']
    simp [endField]

/-- A record with its line break is read as a whole. -/
theorem foldl_record {d : Char} (hd : Delimits d) {text : List Char} {record : List (List Char)}
    (h : EncodesFields d text record) (hne : text ≠ []) (ending : LineEnd)
    (older : List (List (List Char))) :
    (text ++ ending.text).foldl (step d) (between older) = between (record :: older) := by
  obtain ⟨r, hfold, hquoted, hstart, hfields, hrecords⟩ :=
    foldl_encodesFields hd h (r := between older) (.inl rfl) rfl
  have hend : r.endRecord = between (record :: older) := by
    rw [endRecord, hfields, hrecords]
    rfl
  have hbreak : ∀ c, isBreak c = true → step d r c = between (record :: older) := fun c hc => by
    rw [step_break hd hquoted (fun e => hne (hstart e).2) hc, hend]
  rw [List.foldl_append, hfold]
  cases ending with
  | lineFeed => exact hbreak '\n' rfl
  | carriageReturn => exact hbreak '\r' rfl
  | both =>
    show step d (step d r '\r') '\n' = _
    rw [hbreak '\r' rfl]
    rfl

theorem foldl_encodesRecords {d : Char} (hd : Delimits d) {text : List Char}
    {records : List (List (List Char))} (h : EncodesRecords d text records)
    (older : List (List (List Char))) :
    text.foldl (step d) (between older) = between (records.reverse ++ older) := by
  induction h generalizing older with
  | nil => rfl
  | cons h hne ending _ ih =>
    rw [List.foldl_append, foldl_record hd h hne, ih, List.reverse_cons, List.append_assoc,
      List.singleton_append]

/-! ## What is read before does not matter -/

/-- The reader with further records before all that it has read. -/
def under (r : Reader) (older : List (List (List Char))) : Reader :=
  { r with records := r.records ++ older }

theorem stepBare_under (d : Char) (r : Reader) (older : List (List (List Char))) (c : Char) :
    stepBare d (r.under older) c = (stepBare d r c).under older := by
  by_cases hd : c = d
  · rw [stepBare, stepBare, if_pos hd, if_pos hd]
    rfl
  · by_cases hbreak : isBreak c = true
    · rw [stepBare, stepBare, if_neg hd, if_neg hd, if_pos hbreak, if_pos hbreak]
      rfl
    · rw [stepBare, stepBare, if_neg hd, if_neg hd, if_neg hbreak, if_neg hbreak]
      rfl

theorem step_under (d : Char) (r : Reader) (older : List (List (List Char))) (c : Char) :
    step d (r.under older) c = (step d r c).under older := by
  rw [step, step, show (r.under older).place = r.place from rfl, stepBare_under]
  cases r.place <;> dsimp only <;> repeat' split
  all_goals rfl

theorem foldl_under (d : Char) (cs : List Char) (r : Reader) (older : List (List (List Char))) :
    cs.foldl (step d) (r.under older) = (cs.foldl (step d) r).under older := by
  induction cs generalizing r with
  | nil => rfl
  | cons c cs ih => rw [List.foldl_cons, List.foldl_cons, step_under, ih]

theorem finish_under (r : Reader) (older : List (List (List Char))) :
    (r.under older).finish = older.reverse ++ r.finish := by
  obtain ⟨place, field, fields, records⟩ := r
  cases place <;> simp [finish, under, endRecord]

end Reader

/-! ## Texts -/

theorem dropMark_eq_self {text : List Char} (h : text.head? ≠ some '\uFEFF') :
    dropMark text = text := by
  rw [dropMark.eq_def]
  split
  · exact absurd rfl h
  · rfl

/-- Encoded records are read as they are. -/
theorem records_encodesRecords {d : Char} (hd : Delimits d) {text : List Char}
    {rs : List (List (List Char))} (h : EncodesRecords d text rs)
    (hmark : text.head? ≠ some '\uFEFF') : records d text = rs := by
  have hfold := Reader.foldl_encodesRecords hd h []
  rw [List.append_nil] at hfold
  rw [records, dropMark_eq_self hmark, show Reader.start = Reader.between [] from rfl, hfold]
  exact List.reverse_reverse rs

/-- The first record of a text whose first record is encoded. -/
theorem records_encodesFields {d : Char} (hd : Delimits d) {text rest : List Char}
    {record : List (List Char)} (h : EncodesFields d text record) (hne : text ≠ [])
    (ending : LineEnd) (hmark : text.head? ≠ some '\uFEFF') :
    (records d (text ++ ending.text ++ rest)).head? = some record := by
  have hmark' : (text ++ ending.text ++ rest).head? ≠ some '\uFEFF' := by
    obtain ⟨c, cs, rfl⟩ := List.exists_cons_of_ne_nil hne
    exact hmark
  have hfirst : Reader.between [record] = Reader.start.under [record] := rfl
  rw [records, dropMark_eq_self hmark', show Reader.start = Reader.between [] from rfl,
    List.foldl_append, Reader.foldl_record hd h hne, hfirst, Reader.foldl_under,
    Reader.finish_under]
  rfl

end Datasheet.Csv
