import Datasheet.Csv.Document
import Datasheet.Proofs.Csv.Sniff
import Mathlib.Data.List.Basic

/-!
# Tables from encoded records

Encoded records are read as a table: the first one names the columns, of the
others those of its width are the rows, and the rest are counted as skipped.

* `readWith_encodesRecords`: so it is if the delimiter is known;
* `read_encodesRecords`: and if the text counts as separated by it.
-/

namespace Datasheet.Csv

/-- What is skipped are the records of another width. -/
theorem length_sub_length_filter {α : Type} (p : α → Prop) [DecidablePred p] (l : List α) :
    l.length - (l.filter p).length = l.countP (¬ p ·) := by
  have hsplit : l.length = l.countP (decide <| p ·) + _ := List.length_eq_countP_add_countP _
  have hskipped : l.countP (¬ p ·) = l.countP (fun a => ¬ decide (p a) = true) := by
    simp only [decide_eq_true_eq]
  rw [← List.countP_eq_length_filter, hskipped]
  omega

theorem readWith_encodesRecords {d : Delimiter} {text : List Char} {header : List (List Char)}
    {rows : List (List (List Char))} (h : EncodesRecords d.char text (header :: rows))
    (hmark : text.head? ≠ some '\uFEFF') :
    readWith d text = .ok {
      delimiter := d
      table := tableOf header (rows.filter (·.length = header.length))
      skipped := rows.countP (·.length ≠ header.length) } := by
  rw [readWith, records_encodesRecords d.delimits h hmark]
  dsimp only
  rw [length_sub_length_filter]

/-- Whatever the fields hold, however each is quoted and each record ends: a text of
encoded records that counts as separated by their delimiter is read as the table of
those records that are as wide as the first one, with its fields as names. -/
theorem read_encodesRecords {d : Delimiter} {text : List Char} {header : List (List Char)}
    {rows : List (List (List Char))} (h : EncodesRecords d.char text (header :: rows))
    (hmark : text.head? ≠ some '\uFEFF') (hsniff : sniff text = d) :
    read text = .ok {
      delimiter := d
      table := .ofRows (header.map String.ofList)
        ((rows.filter (·.length = header.length)).map fun row =>
          row.map fun field => .ofField (.ofList field))
      skipped := rows.countP (·.length ≠ header.length) } := by
  rw [read, dropMark_eq_self hmark, hsniff, readWith_encodesRecords h hmark]
  rfl

/-- A field may stay bare if none of its characters needs quotes, which is computed. -/
theorem EncodesField.of_all {d : Char} {field : List Char}
    (h : field.all fun c => c ≠ d && c ≠ '"' && !isBreak c) : EncodesField d field field := by
  refine .bare fun c hc => ?_
  have hchar := List.all_eq_true.mp h c hc
  simpa [and_assoc] using hchar

/-- A header with a quoted delimiter and rows of one to three fields, among them a
quoted line break, a quoted quote and a single empty field, with every line break. -/
def raggedText : List Char :=
  "name;\"a;b\"\r\n\"x\n;\";1\rNA\n\"\"\r\n1;2;3\n;\"\"\"\"\n".toList

def raggedRows : List (List (List Char)) :=
  [["x\n;".toList, ['1']], [['N', 'A']], [[]], [['1'], ['2'], ['3']], [[], ['"']]]

theorem encodesRecords_ragged :
    EncodesRecords ';' raggedText (["name".toList, "a;b".toList] :: raggedRows) := by
  have name : EncodesField ';' "name".toList "name".toList := .of_all (by decide)
  have one : EncodesField ';' ['1'] ['1'] := .of_all (by decide)
  have two : EncodesField ';' ['2'] ['2'] := .of_all (by decide)
  have three : EncodesField ';' ['3'] ['3'] := .of_all (by decide)
  have empty : EncodesField ';' [] [] := .of_all (by decide)
  have header : EncodesFields ';' "name;\"a;b\"".toList ["name".toList, "a;b".toList] :=
    .cons name (.single (.quoted "a;b".toList))
  have breakAndOne : EncodesFields ';' "\"x\n;\";1".toList ["x\n;".toList, ['1']] :=
    .cons (.quoted "x\n;".toList) (.single one)
  have missing : EncodesFields ';' "NA".toList [['N', 'A']] := .single (.of_all (by decide))
  have threeFields : EncodesFields ';' "1;2;3".toList [['1'], ['2'], ['3']] :=
    .cons one (.cons two (.single three))
  have emptyAndQuote : EncodesFields ';' ";\"\"\"\"".toList [[], ['"']] :=
    .cons empty (.single (.quoted ['"']))
  exact .cons header (by decide) .both <| .cons breakAndOne (by decide) .carriageReturn <|
    .cons missing (by decide) .lineFeed <| .cons (.single (.quoted [])) (by decide) .both <|
    .cons threeFields (by decide) .lineFeed <| .cons emptyAndQuote (by decide) .lineFeed .nil

/-- Two rows of the ragged text have the width of the header, three do not. -/
theorem read_raggedText :
    EncodesRecords ';' raggedText (["name".toList, "a;b".toList] :: raggedRows) ∧
      raggedText.head? ≠ some '\uFEFF' ∧ sniff raggedText = .semicolon ∧
      read raggedText = .ok {
        delimiter := .semicolon
        table := .ofRows ["name", "a;b"] [[.text "x\n;", .text "1"], [.missing, .text "\""]]
        skipped := 3 } := by
  have hsniff : sniff raggedText = .semicolon := by cbv
  have hread := read_encodesRecords (d := .semicolon) encodesRecords_ragged (by decide) hsniff
  exact ⟨encodesRecords_ragged, by decide, hsniff, hread⟩

end Datasheet.Csv
