import Datasheet.Proofs.Results
import Datasheet.Service.Request

/-!
# What a form holds

A form can be read if and only if it is whole and has no more bytes than allowed
(`Form.read_eq_ok_iff`). It then holds the texts and the files of its parts, the last
one first (`Form.ofParts`), so that of parts of one name the last one counts.
-/

namespace Datasheet

namespace Part

/-- The bytes of a part. -/
def bytes (p : Part) : List UInt8 := p.chunks.flatten

/-- The name and the text of a part that is a text field. -/
def field? (p : Part) : Option (String × String) :=
  match p.name, p.fileName with
  | some name, none => some (name, .ofList (Encoding.utf8.decode p.bytes))
  | _, _ => none

/-- The name and the content of a part that is a file. -/
def file? (p : Part) : Option (String × Upload) :=
  match p.name, p.fileName with
  | some name, some fileName =>
    some (name, ⟨fileName, p.contentType.map MediaType.text, p.bytes⟩)
  | _, _ => none

end Part

namespace Form

/-- The form that parts make. -/
def ofParts (parts : List Part) : Form where
  fields := (parts.filterMap Part.field?).reverse
  files := (parts.filterMap Part.file?).reverse

theorem ofParts_concat (parts : List Part) (p : Part) :
    ofParts (parts ++ [p]) = (ofParts parts).insert p p.bytes := by
  rw [ofParts, List.filterMap_append, List.filterMap_append, List.reverse_append,
    List.reverse_append, insert.eq_def]
  obtain ⟨_ | name, _ | fileName, contentType, chunks⟩ := p <;> rfl

/-- The bytes of the chunks are joined unless they are too many. -/
theorem joinChunks_eq (limit : Nat) (chunks : List (List UInt8)) {total : Nat}
    (h : total ≤ limit) (bytes : List UInt8) :
    joinChunks limit total bytes chunks =
      if total + chunks.flatten.length ≤ limit then
        .ok (bytes ++ chunks.flatten, total + chunks.flatten.length)
      else .error (tooLarge limit) := by
  induction chunks generalizing total bytes with
  | nil =>
    rw [joinChunks, List.flatten_nil, List.append_nil, List.length_nil, Nat.add_zero, if_pos h]
  | cons chunk chunks ih =>
    rw [joinChunks, List.flatten_cons, List.length_append, ← Nat.add_assoc, ← List.append_assoc]
    by_cases hchunk : limit < total + chunk.length
    · rw [if_pos hchunk, if_neg (by omega)]
    · rw [if_neg hchunk, ih (by omega)]

/-- How many bytes parts have. -/
def size (parts : List Part) : Nat := (parts.flatMap Part.bytes).length

/-- Parts are read unless they are too large. -/
theorem readParts_eq (limit : Nat) (before parts : List Part) (h : size before ≤ limit) :
    readParts limit (size before) (ofParts before) parts =
      if size (before ++ parts) ≤ limit then .ok (ofParts (before ++ parts))
      else .error (tooLarge limit) := by
  induction parts generalizing before with
  | nil => rw [readParts, List.append_nil, if_pos h]
  | cons p parts ih =>
    have hnext : size (before ++ [p]) = size before + p.chunks.flatten.length := by
      simp [size, Part.bytes]
    have hsplit : before ++ p :: parts = before ++ [p] ++ parts := by simp
    rw [readParts, joinChunks_eq limit p.chunks h, List.nil_append, hsplit]
    by_cases hp : size (before ++ [p]) ≤ limit
    · rw [← hnext, if_pos hp, ← ih _ hp, ofParts_concat]
      rfl
    · have hrest : size (before ++ [p]) ≤ size (before ++ [p] ++ parts) := by
        simp only [size, List.flatMap_append, List.length_append]
        omega
      rw [← hnext, if_neg hp, if_neg (by omega)]

/-- What is read from a stream: size comes before form. -/
theorem read_eq (limit : Nat) (stream : FormStream) :
    read limit stream =
      if size stream.parts ≤ limit then
        match stream.fault with
        | none => .ok (ofParts stream.parts)
        | some reason => .error (malformed reason)
      else .error (tooLarge limit) := by
  have hparts : readParts limit 0 empty stream.parts = _ :=
    readParts_eq limit [] stream.parts (Nat.zero_le _)
  rw [List.nil_append] at hparts
  rw [read, hparts]
  by_cases hsize : size stream.parts ≤ limit
  · rw [if_pos hsize]
    exact (if_pos hsize).symm
  · rw [if_neg hsize, if_neg hsize]

/-- Which form is read from a stream, if any. -/
theorem read_eq_ok_iff {limit : Nat} {stream : FormStream} {form : Form} :
    read limit stream = .ok form ↔
      stream.fault = none ∧ size stream.parts ≤ limit ∧ form = ofParts stream.parts := by
  rw [read_eq]
  by_cases hsize : size stream.parts ≤ limit
  · rw [if_pos hsize]
    cases stream.fault <;> simp [hsize, eq_comm]
  · simp [hsize]

/-- A file of a form that has been read is in one of the parts. -/
theorem exists_part_of_file? {limit : Nat} {stream : FormStream} {form : Form} {name : String}
    {file : Upload} (hread : read limit stream = .ok form) (hfile : form.file? name = some file) :
    ∃ p ∈ stream.parts, p.file? = some (name, file) := by
  obtain ⟨-, -, rfl⟩ := read_eq_ok_iff.mp hread
  rw [file?, List.lookup_eq_some_iff] at hfile
  obtain ⟨newer, older, hsplit, -⟩ := hfile
  have hmem : (name, file) ∈ (ofParts stream.parts).files := by
    rw [hsplit]
    exact List.mem_append_right _ List.mem_cons_self
  exact List.mem_filterMap.mp (List.mem_reverse.mp hmem)

end Form

/-- Only a payload that is a form is read as one. -/
theorem Payload.exists_of_form? {intake : Intake} {p : Payload} {form : Form}
    (h : (p.form? intake).toOption = some form) :
    ∃ stream, p = .form stream ∧ Form.read intake.maxBytes stream = .ok form := by
  cases p with
  | none => cases h
  | text => cases h
  | form stream => exact ⟨stream, rfl, eq_ok_of_toOption h⟩

end Datasheet
