import Datasheet.Proofs.Csv.SingleColumn

/-!
# Which candidate splits a header

The candidates are tried in a fixed order. To one that is not the delimiter of a text, the
first delimiter is a part of a field without quotes, and so is what follows up to a line
break, with the quotes in it. So quotes hide a candidate in the first field of a header, or
behind a line break that they hold too, and nowhere else.

* `one_lt_headerWidth_iff`: a candidate splits the header if it is the delimiter or stands
  between the first delimiter and the next line break;
* `sniff_guarded`: so the delimiter is the first candidate that is that of the text or is
  quoted in a field after the first one (`exposed`).
-/

namespace Datasheet.Csv

/-! ## Guarded headers -/

/-- A field as it is, if it holds no candidate, no quote and no line break, or in quotes. -/
inductive GuardsField : List Char → List Char → Prop where
  | bare {field : List Char}
      (h : ∀ c ∈ field, (∀ d ∈ Delimiter.candidates, c ≠ d.char) ∧ c ≠ '"' ∧ isBreak c = false) :
      GuardsField field field
  | quoted (field : List Char) : GuardsField (quote field) field

/-- Such fields with a delimiter between them. -/
inductive GuardsFields (d : Delimiter) : List Char → List (List Char) → Prop where
  | single {text field : List Char} (h : GuardsField text field) : GuardsFields d text [field]
  | cons {text field texts : List Char} {fields : List (List Char)}
      (h : GuardsField text field) (hs : GuardsFields d texts fields) :
      GuardsFields d (text ++ d.char :: texts) (field :: fields)

theorem Delimiter.mem_candidates (d : Delimiter) : d ∈ candidates := by
  cases d <;> decide

/-- Under every candidate a guarded field is read as it is. -/
theorem GuardsField.encodesField {text field : List Char} (h : GuardsField text field)
    (d : Delimiter) : EncodesField d.char text field := by
  cases h with
  | bare h => exact .bare fun c hc => ⟨(h c hc).1 d d.mem_candidates, (h c hc).2⟩
  | quoted => exact .quoted field

/-- A field may stay bare if none of its characters needs quotes, which is computed. -/
theorem GuardsField.of_all {field : List Char} (h : field.all fun c =>
    Delimiter.candidates.all (c ≠ ·.char) && c ≠ '"' && !isBreak c) : GuardsField field field := by
  refine .bare fun c hc => ?_
  have hchar := List.all_eq_true.mp h c hc
  simpa [and_assoc] using hchar

/-- The fields of a header after the first one, up to the first line break in them. -/
def exposed (header : List (List Char)) : List Char := header.tail.flatten.takeWhile (!isBreak ·)

/-! ## First lines -/

theorem Delimiter.char_ne {d e : Delimiter} (h : e ≠ d) : e.char ≠ d.char := by
  cases d <;> cases e <;> first | decide | contradiction

/-- What is neither a delimiter nor a quote. -/
def isContent (d c : Char) : Bool := c ≠ d && c ≠ '"'

/-- A text has the characters of its fields in their order, but for delimiters and quotes. -/
theorem GuardsFields.filter_eq {d : Delimiter} {text : List Char} {fields : List (List Char)}
    (h : GuardsFields d text fields) :
    text.filter (isContent d.char) = fields.flatten.filter (isContent d.char) := by
  have hfield : ∀ {text field : List Char}, GuardsField text field →
      text.filter (isContent d.char) = field.filter (isContent d.char) := fun h => by
    cases h with
    | bare => rfl
    | quoted => exact filter_quote (by simp [isContent]) _
  induction h with
  | single h => rw [hfield h, List.flatten_cons, List.flatten_nil, List.append_nil]
  | cons h _ ih =>
    have hd : isContent d.char d.char = false := by simp [isContent]
    rw [List.filter_append, List.filter_cons_of_neg (by simp [hd]), hfield h, ih,
      List.flatten_cons, List.filter_append]

/-- Neither a delimiter nor a quote ends a line, so other characters stand in the same one
without them. -/
theorem mem_takeWhile_filter {d c : Char} (hd : Delimits d) (hc : isContent d c)
    (cs : List Char) : c ∈ (cs.filter (isContent d)).takeWhile (!isBreak ·) ↔
      c ∈ cs.takeWhile (!isBreak ·) := by
  have hline : (fun a => !isContent d a || !isBreak a) = fun a => !isBreak a := by
    funext a
    by_cases ha : isContent d a = true
    · rw [ha, Bool.not_true, Bool.false_or]
    · have hother : a = d ∨ a = '"' := by
        rwa [isContent, Bool.and_eq_true, decide_eq_true_eq, decide_eq_true_eq, not_and_or,
          not_not, not_not] at ha
      have hbreak : isBreak a = false := by
        rcases hother with rfl | rfl
        · exact hd.not_break
        · rfl
      rw [hbreak, Bool.not_false, Bool.or_true]
  rw [List.takeWhile_filter, hline, List.mem_filter, and_iff_left hc]

theorem takeWhile_append_break {rest : List Char} (hrest : ∀ c ∈ rest.head?, isBreak c)
    (text : List Char) :
    (text ++ rest).takeWhile (!isBreak ·) = text.takeWhile (!isBreak ·) := by
  have hnone : rest.takeWhile (!isBreak ·) = [] := by
    cases rest with
    | nil => rfl
    | cons c cs => exact List.takeWhile_cons_of_neg (by simp [hrest c rfl])
  rw [List.takeWhile_append, hnone, List.append_nil]
  split
  · exact ((List.takeWhile_prefix _).eq_of_length ‹_›).symm
  · rfl

/-- Another candidate stands in the first line of a text if it does in that of its fields. -/
theorem GuardsFields.mem_takeWhile_iff {d e : Delimiter} {text rest : List Char}
    {fields : List (List Char)} (h : GuardsFields d text fields)
    (hrest : ∀ c ∈ rest.head?, isBreak c) (hne : e ≠ d) :
    e.char ∈ (text ++ rest).takeWhile (!isBreak ·) ↔
      e.char ∈ fields.flatten.takeWhile (!isBreak ·) := by
  have hcontent : isContent d.char e.char := by
    simp [isContent, Delimiter.char_ne hne, e.delimits.ne_quote]
  rw [takeWhile_append_break hrest, ← mem_takeWhile_filter d.delimits hcontent text, h.filter_eq,
    mem_takeWhile_filter d.delimits hcontent]

/-! ## Readers -/

namespace Reader

variable {r : Reader}

/-- The delimiter of another reader is a part of a field. -/
theorem step_other {c d : Char} (hd : Delimits d) (hne : d ≠ c) (hr : r.place ≠ .quoted) :
    step c r d = r.push .bare d := by
  rw [step]
  cases hplace : r.place <;>
    simp_all [stepBare, hd.ne_quote, hd.not_break]

/-- The first record has no more fields after its line break. -/
theorem width_foldl_endRecord (d : Char) (hrecords : r.records = []) (cs : List Char) :
    (cs.foldl (step d) r.endRecord).width = r.fields.length + 1 := by
  have hunder : r.endRecord = start.under [(r.field.reverse :: r.fields).reverse] := by
    rw [endRecord, hrecords]
    rfl
  rw [hunder, foldl_under, width, finish_under]
  simp

/-- In the unquoted part of the first field, a delimiter counts up to the next line break. By
induction on the text, of which the first delimiter or line break decides. -/
theorem one_lt_width_foldl_bare {d : Char} (hd : Delimits d) {cs : List Char}
    (hplace : r.place = .bare) (hfields : r.fields = []) (hrecords : r.records = []) :
    1 < (cs.foldl (step d) r).width ↔ d ∈ cs.takeWhile (!isBreak ·) := by
  induction cs generalizing r with
  | nil => simp [width, finish_eq, hplace, hfields, hrecords]
  | cons c cs ih =>
    have hstep : step d r c = stepBare d r c := by rw [step, hplace]
    rw [List.foldl_cons, hstep, stepBare]
    by_cases hc : c = d
    · rw [if_pos hc]
      exact iff_of_true (one_lt_width_foldl_endField hrecords d cs) (by simp [hc, hd.not_break])
    · rw [if_neg hc]
      by_cases hbreak : isBreak c
      · rw [if_pos hbreak, width_foldl_endRecord d hrecords, hfields,
          List.takeWhile_cons_of_neg (by simp [hbreak])]
        simp
      · have hpush := ih (r := r.push .bare c) rfl hfields hrecords
        rw [if_neg hbreak, hpush, List.takeWhile_cons_of_pos (by simp [hbreak]), List.mem_cons,
          or_iff_right (Ne.symm hc)]

end Reader

/-- Behind a guarded first field, a candidate splits the header if it is the delimiter there or
stands between that and the next line break. -/
theorem one_lt_headerWidth_iff {d e : Delimiter} {first field rest : List Char}
    (h : GuardsField first field) (hmark : (first ++ d.char :: rest).head? ≠ some '\uFEFF') :
    1 < headerWidth (first ++ d.char :: rest) e ↔
      e = d ∨ e.char ∈ rest.takeWhile (!isBreak ·) := by
  obtain ⟨place, hfold, hquoted, -⟩ :=
    Reader.foldl_encodesField (h.encodesField e) (r := .start) (.inl rfl) rfl
  rw [headerWidth, records, dropMark_eq_self hmark, List.foldl_append, hfold, List.foldl_cons]
  show 1 < Reader.width _ ↔ _
  by_cases hne : e = d
  · subst hne
    rw [Reader.step_delimiter e.delimits hquoted]
    exact iff_of_true (Reader.one_lt_width_foldl_endField rfl e.char rest) (.inl rfl)
  · rw [Reader.step_other d.delimits (Delimiter.char_ne (Ne.symm hne)) hquoted,
      Reader.one_lt_width_foldl_bare e.delimits rfl rfl rfl, or_iff_right hne]

/-! ## Order -/

theorem sniff_of_find? {text : List Char} {d : Delimiter}
    (h : Delimiter.candidates.find? (1 < headerWidth text ·) = some d) : sniff text = d := by
  rw [sniff, h]

/-- An element is the first that is itself or has a property if none before it has that. -/
theorem find?_eq_or_iff {α : Type} [DecidableEq α] {l : List α} {a : α} (ha : a ∈ l)
    (p : α → Prop) [DecidablePred p] :
    l.find? (fun b => b = a ∨ p b) = some a ↔ ∀ b ∈ l.takeWhile (· ≠ a), ¬ p b := by
  induction l with
  | nil => cases ha
  | cons b l ih =>
    by_cases hb : b = a
    · rw [List.find?_cons_of_pos (by simp [hb]), List.takeWhile_cons_of_neg (by simp [hb]), hb]
      simp
    · rw [List.takeWhile_cons_of_pos (by simpa using hb), List.forall_mem_cons]
      by_cases hp : p b
      · rw [List.find?_cons_of_pos (by simp [hp])]
        simp [hb, hp]
      · rw [List.find?_cons_of_neg (by simp [hb, hp]),
          ih ((List.mem_cons.mp ha).resolve_left (Ne.symm hb))]
        simp [hp]

/-- A header of more than one field, in which a field is in quotes if it holds a candidate, a
quote or a line break, with a line break and anything else behind it or nothing: the delimiter
that is found is the first candidate that is its own or that stands in a field after the first
one, before any line break in these fields. So it is its own if none of the candidates tried
before stands there; what the first field and the records after the header hold has no say. -/
theorem sniff_guarded {d : Delimiter} {line rest : List Char} {header : List (List Char)}
    (h : GuardsFields d line header) (hwidth : 1 < header.length)
    (hrest : ∀ c ∈ rest.head?, isBreak c) (hmark : (line ++ rest).head? ≠ some '\uFEFF') :
    Delimiter.candidates.find? (fun e => e = d ∨ e.char ∈ exposed header) =
        some (sniff (line ++ rest)) ∧
      (sniff (line ++ rest) = d ↔
        ∀ e ∈ Delimiter.candidates.takeWhile (· ≠ d), e.char ∉ exposed header) := by
  obtain ⟨⟩ | @⟨first, field, texts, fields, hfirst, hfields⟩ := h
  · exact absurd hwidth (by simp)
  · have hsplits : ∀ e : Delimiter, 1 < headerWidth (first ++ d.char :: texts ++ rest) e ↔
        e = d ∨ e.char ∈ exposed (field :: fields) := fun e => by
      rw [List.append_assoc, List.cons_append] at hmark ⊢
      rw [one_lt_headerWidth_iff hfirst hmark]
      exact or_congr_right' fun hne => hfields.mem_takeWhile_iff hrest hne
    have hsome : (Delimiter.candidates.find?
        (1 < headerWidth (first ++ d.char :: texts ++ rest) ·)).isSome :=
      List.find?_isSome.mpr ⟨d, d.mem_candidates, decide_eq_true ((hsplits d).mpr (.inl rfl))⟩
    obtain ⟨found, hfound⟩ := Option.isSome_iff_exists.mp hsome
    rw [sniff_of_find? hfound]
    simp only [hsplits] at hfound
    refine ⟨hfound, ?_⟩
    rw [← find?_eq_or_iff d.mem_candidates, hfound, Option.some.injEq]

/-- A comma in the first field, and a semicolon behind a line break, both in quotes. -/
def foldedLine : List Char := "\"a,b\"\tx\t\"p\n;q\"".toList

def foldedHeader : List (List Char) := ["a,b".toList, ['x'], "p\n;q".toList]

def foldedRest : List Char := '\r' :: "\n1,2\t;\t\n".toList

/-- Neither is found, nor what the next record holds. -/
theorem sniff_foldedLine :
    GuardsFields .tab foldedLine foldedHeader ∧ 1 < foldedHeader.length ∧
      (∀ c ∈ foldedRest.head?, isBreak c) ∧
      (foldedLine ++ foldedRest).head? ≠ some '\uFEFF' ∧
      (∀ e ∈ Delimiter.candidates.takeWhile (· ≠ .tab), e.char ∉ exposed foldedHeader) ∧
      sniff (foldedLine ++ foldedRest) = .tab := by
  have hx : GuardsField ['x'] ['x'] := .of_all (by decide)
  have hguards : GuardsFields .tab foldedLine foldedHeader :=
    .cons (.quoted "a,b".toList) (.cons hx (.single (.quoted "p\n;q".toList)))
  have hwidth : 1 < foldedHeader.length := by decide
  have hbreak : ∀ c ∈ foldedRest.head?, isBreak c := by
    rintro c ⟨⟩
    rfl
  have hmark : (foldedLine ++ foldedRest).head? ≠ some '\uFEFF' := by decide
  have hhidden : ∀ e ∈ Delimiter.candidates.takeWhile (· ≠ .tab),
      e.char ∉ exposed foldedHeader := by decide
  exact ⟨hguards, hwidth, hbreak, hmark, hhidden,
    (sniff_guarded hguards hwidth hbreak hmark).2.mpr hhidden⟩

/-- Quotes do not hide a comma in the second field, since for a comma the field before it has
begun without quotes. -/
theorem sniff_quotedComma :
    GuardsFields .semicolon "x;\"a,b\"".toList [['x'], "a,b".toList] ∧
      GuardsFields .semicolon "1;2".toList [['1'], ['2']] ∧
      sniff ("x;\"a,b\"".toList ++ '\n' :: "1;2".toList ++ ['\n']) = .comma ∧
      Delimiter.comma ≠ .semicolon := by
  have hx : GuardsField ['x'] ['x'] := .of_all (by decide)
  have hone : GuardsField ['1'] ['1'] := .of_all (by decide)
  have htwo : GuardsField ['2'] ['2'] := .of_all (by decide)
  exact ⟨.cons hx (.single (.quoted "a,b".toList)), .cons hone (.single htwo), by decide +kernel,
    by decide⟩

end Datasheet.Csv
