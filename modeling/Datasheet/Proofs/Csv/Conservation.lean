import Datasheet.Csv.Document
import Datasheet.Csv.Writer
import Datasheet.Proofs.Csv.Reader
import Datasheet.Proofs.Table.Header
import Mathlib.Data.List.Flatten

/-!
# What reading and writing keep of the characters

Characters are counted. The reader takes each one into a field at most once
(`Reader.count_chars_step_le`), so the fields that it reads hold no character more
often than the text does (`count_records_le`). A byte-order mark means nothing to
the writer: a text has as many as the fields that are written
(`count_flatMap_writeRecord`), and none comes from the names that blank and
repeated headers are given (`count_uniqueNames_le`).
-/

namespace Datasheet

/-! ## Names and cells -/

theorem count_toString_eq_zero {c : Char} (hc : c.isDigit = false) (n : Nat) :
    (toString n).toList.count c = 0 := by
  refine List.count_eq_zero.mpr fun hmem => ?_
  have hdigits : (toString n).toList = Nat.toDigits 10 n := String.toList_ofList
  rw [hdigits] at hmem
  rw [Nat.isDigit_of_mem_toDigits (by decide) (by decide) hmem] at hc
  cases hc

theorem count_baseName_le (index : Nat) (header : String) :
    (baseName index header).toList.count '\uFEFF' ≤ header.toList.count '\uFEFF' := by
  rw [baseName]
  split
  · rw [String.toList_append, List.count_append, count_toString_eq_zero (by decide)]
    exact Nat.zero_le _
  · exact Nat.le_refl _

theorem count_freeName (taken : List String) (base : String) :
    (freeName taken base).toList.count '\uFEFF' = base.toList.count '\uFEFF' := by
  by_cases hmem : base ∈ taken
  · obtain ⟨k, hk, -⟩ := freeName_of_mem hmem
    rw [hk, numberedName, String.toList_append, String.toList_append, List.count_append,
      List.count_append, count_toString_eq_zero (by decide)]
    rfl
  · rw [freeName_of_notMem hmem]

theorem count_uniqueNamesFrom_le (headers taken : List String) (index : Nat) :
    ((uniqueNamesFrom taken index headers).map String.toList).flatten.count '\uFEFF' ≤
      (headers.map String.toList).flatten.count '\uFEFF' := by
  induction headers generalizing taken index with
  | nil => exact Nat.le_refl _
  | cons header headers ih =>
    simp only [uniqueNamesFrom, List.map_cons, List.flatten_cons, List.count_append]
    refine Nat.add_le_add ?_ (ih _ _)
    rw [count_freeName]
    exact count_baseName_le index header

/-- The names for a header line have no mark that the line does not have. -/
theorem count_uniqueNames_le (headers : List String) :
    ((uniqueNames headers).map String.toList).flatten.count '\uFEFF' ≤
      (headers.map String.toList).flatten.count '\uFEFF' :=
  count_uniqueNamesFrom_le headers [] 0

/-- The cell of a field shows no character that the field does not have. -/
theorem Cell.count_display_ofField_le (c : Char) (field : List Char) :
    (ofField (.ofList field)).display.toList.count c ≤ field.count c := by
  rw [ofField]
  split
  · exact Nat.zero_le _
  · exact Nat.le_of_eq (by rw [display, String.toList_ofList])

namespace Csv

/-! ## Reading -/

namespace Reader

/-- The characters of all fields so far; their order does not matter. -/
def chars (r : Reader) : List Char := r.field ++ r.fields.flatten ++ r.records.flatten.flatten

theorem chars_endField (r : Reader) : r.endField.chars.Perm r.chars := by
  simp only [endField, chars, List.flatten_cons, List.nil_append]
  exact ((List.reverse_perm r.field).append_right _).append_right _

theorem chars_endRecord (r : Reader) : r.endRecord.chars.Perm r.chars := by
  simp only [endRecord, chars, List.flatten_cons, List.flatten_append, List.nil_append,
    List.flatten_nil]
  refine List.Perm.append_right _ ((List.reverse_perm _).flatten.trans ?_)
  exact (List.reverse_perm r.field).append_right _

/-- A character is taken into a field at most once. -/
theorem count_chars_step_le (d : Char) (r : Reader) (c x : Char) :
    (step d r c).chars.count x ≤ (c :: r.chars).count x := by
  have hkeep : r.chars.count x ≤ (c :: r.chars).count x := List.count_le_count_cons
  have hmoves := moves_step d r c
  generalize step d r c = r' at hmoves
  cases hmoves with
  | stay => exact hkeep
  | within hplace hfield =>
    rcases hfield with rfl | rfl
    · exact hkeep
    · exact Nat.le_refl _
  | endField => rwa [(chars_endField r).count_eq]
  | endRecord => rwa [(chars_endRecord r).count_eq]

theorem count_chars_foldl_le (d : Char) (cs : List Char) (r : Reader) (x : Char) :
    (cs.foldl (step d) r).chars.count x ≤ (cs ++ r.chars).count x := by
  induction cs generalizing r with
  | nil => exact Nat.le_refl _
  | cons c cs ih =>
    have hstep := count_chars_step_le d r c x
    have hrest := ih (step d r c)
    simp only [List.count_append, List.count_cons, List.foldl_cons] at *
    omega

theorem count_finish_le (r : Reader) (x : Char) :
    r.finish.flatten.flatten.count x ≤ r.chars.count x := by
  rw [finish, (List.reverse_perm _).flatten.flatten.count_eq]
  split
  · rw [chars, List.count_append]
    exact Nat.le_add_left _ _
  · rw [← (chars_endRecord r).count_eq, chars, List.count_append]
    exact Nat.le_add_left _ _

end Reader

/-- The fields of a text hold no character more often than the text after its
byte-order mark. -/
theorem count_records_le (d : Char) (text : List Char) (x : Char) :
    (records d text).flatten.flatten.count x ≤ (dropMark text).count x := by
  have hfold := Reader.count_chars_foldl_le d (dropMark text) .start x
  rw [show Reader.start.chars = [] from rfl, List.append_nil] at hfold
  exact Nat.le_trans (Reader.count_finish_le _ x) hfold

theorem dropMark_suffix (text : List Char) : dropMark text <:+ text := by
  rw [dropMark.eq_def]
  split
  · exact List.suffix_cons _ _
  · exact List.suffix_refl _

/-! ## Writing -/

theorem count_quote (field : List Char) : (quote field).count '\uFEFF' = field.count '\uFEFF' := by
  rw [List.count_eq_length_filter, filter_quote (by decide), ← List.count_eq_length_filter]

theorem count_intercalate {write : List Char → List Char} {fields : List (List Char)}
    (h : ∀ field ∈ fields, (write field).count '\uFEFF' = field.count '\uFEFF') :
    ([','].intercalate (fields.map write)).count '\uFEFF' = fields.flatten.count '\uFEFF' := by
  induction fields with
  | nil => rfl
  | cons field fields ih =>
    have hrest := ih fun f hf => h f (List.mem_cons_of_mem _ hf)
    have hfield := h field List.mem_cons_self
    cases fields with
    | nil => simpa using hfield
    | cons other fields => simp_all [List.intercalate]

theorem count_writeRecord (fields : List (List Char)) :
    (writeRecord fields).count '\uFEFF' = fields.flatten.count '\uFEFF' := by
  rw [writeRecord]
  split
  · rename_i hempty
    rw [hempty]
    rfl
  · refine count_intercalate fun field _ => ?_
    split
    · exact count_quote field
    · rfl

/-- A byte-order mark is written where it stands in a field, and nowhere else. -/
theorem count_flatMap_writeRecord (records : List (List (List Char))) :
    (records.flatMap fun fields => writeRecord fields ++ ['\n']).count '\uFEFF' =
      records.flatten.flatten.count '\uFEFF' := by
  induction records with
  | nil => rfl
  | cons fields records ih =>
    rw [List.flatMap_cons, List.count_append, List.count_append, count_writeRecord, ih,
      List.flatten_cons, List.flatten_append, List.count_append]
    rfl

end Csv

end Datasheet
