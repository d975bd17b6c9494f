import Datasheet.Proofs.Service.Forms

/-!
# Forms that are read to their end

A stream that does not break off is refused for its size only, which is that of all its
parts, also of those without a name. Otherwise each name has the last file and the last
text that came with it, with all their bytes; a file and a text of one name are kept apart.
How the bytes come in chunks has no say in it: both the size and the form are those of the
parts in one chunk each (`size_map_joined`, `ofParts_map_joined`).

* `Form.read_whole`: what is read from such a stream.
-/

namespace Datasheet

namespace Part

/-- The part with its bytes in one chunk. -/
def joined (p : Part) : Part := { p with chunks := [p.bytes] }

/-- What is uploaded with a part that has a file name. -/
def upload? (p : Part) : Option Upload :=
  p.fileName.map fun fileName => ⟨fileName, p.contentType.map MediaType.text, p.bytes⟩

/-- The text of a part that has no file name. -/
def text? (p : Part) : Option String :=
  if p.fileName.isNone then some (.ofList (Encoding.utf8.decode p.bytes)) else none

theorem file?_eq (p : Part) : p.file? = p.name.bind fun name => p.upload?.map (name, ·) := by
  obtain ⟨_ | name, _ | fileName, contentType, chunks⟩ := p <;> rfl

theorem field?_eq (p : Part) : p.field? = p.name.bind fun name => p.text?.map (name, ·) := by
  obtain ⟨_ | name, _ | fileName, contentType, chunks⟩ := p <;> rfl

theorem isSome_upload? (p : Part) : p.upload?.isSome = p.fileName.isSome := Option.isSome_map

theorem isSome_text? (p : Part) : p.text?.isSome = p.fileName.isNone := by
  rw [text?]
  cases p.fileName <;> rfl

/-! ## Chunks -/

theorem bytes_joined (p : Part) : p.joined.bytes = p.bytes := List.flatten_singleton

theorem file?_joined (p : Part) : p.joined.file? = p.file? := by
  rw [file?_eq, file?_eq, upload?, bytes_joined]
  rfl

theorem field?_joined (p : Part) : p.joined.field? = p.field? := by
  rw [field?_eq, field?_eq, text?, bytes_joined]
  rfl

end Part

namespace Form

theorem size_map_joined (parts : List Part) : size (parts.map Part.joined) = size parts := by
  rw [size, size, List.flatMap_map, funext Part.bytes_joined]

theorem ofParts_map_joined (parts : List Part) :
    ofParts (parts.map Part.joined) = ofParts parts := by
  have hfile : Part.file? ∘ Part.joined = Part.file? := funext Part.file?_joined
  have hfield : Part.field? ∘ Part.joined = Part.field? := funext Part.field?_joined
  rw [ofParts, List.filterMap_map, List.filterMap_map, hfile, hfield, ofParts]

/-- Parts that differ in their chunks only are read alike. -/
theorem read_congr (limit : Nat) {parts other : List Part}
    (h : other.map Part.joined = parts.map Part.joined) (fault : Option String) :
    read limit ⟨other, fault⟩ = read limit ⟨parts, fault⟩ := by
  rw [read_eq, read_eq, ← size_map_joined other, ← ofParts_map_joined other, h, size_map_joined,
    ofParts_map_joined]

/-! ## Names -/

theorem lookup_eq_map_find? {β : Type} (l : List (String × β)) (key : String) :
    l.lookup key = (l.find? (·.1 = key)).map Prod.snd := by
  induction l with
  | nil => rfl
  | cons pair l ih =>
    obtain ⟨other, value⟩ := pair
    by_cases hkey : other = key
    · simp [hkey]
    · have hne : (key == other) = false := beq_false_of_ne (Ne.symm hkey)
      simp [List.lookup_cons, hkey, hne, ih]

/-- Of what parts hold, the last one counts that came with a name. -/
theorem lookup_reverse_filterMap {β : Type} (held? : Part → Option β) (parts : List Part)
    (name : String) :
    (parts.filterMap fun p => p.name.bind fun n => (held? p).map (n, ·)).reverse.lookup name =
      (parts.filter fun p => p.name = some name ∧ (held? p).isSome).getLast?.bind held? := by
  have hnamed (p : Part) : (p.name.bind fun n => (held? p).map (n, ·)).any (·.1 = name) =
      decide (p.name = some name ∧ (held? p).isSome) := by
    cases p.name <;> cases held? p <;> simp
  rw [lookup_eq_map_find?, ← List.filterMap_reverse, List.find?_filterMap, List.getLast?_filter]
  simp only [hnamed]
  cases hlast : parts.reverse.find? fun p => p.name = some name ∧ (held? p).isSome with
  | none => rfl
  | some p =>
    have hp : p.name = some name ∧ (held? p).isSome = true := by
      simpa using List.find?_some hlast
    rw [Option.bind_some, hp.1, Option.bind_some, Option.map_map]
    exact Option.map_id'

theorem file?_ofParts (parts : List Part) (name : String) :
    (ofParts parts).file? name =
      (parts.filter fun p => p.name = some name ∧ p.fileName.isSome).getLast?.bind
        Part.upload? := by
  have hlookup := lookup_reverse_filterMap Part.upload? parts name
  simp only [Part.isSome_upload?, ← Part.file?_eq] at hlookup
  exact hlookup

theorem field?_ofParts (parts : List Part) (name : String) :
    (ofParts parts).field? name =
      (parts.filter fun p => p.name = some name ∧ p.fileName.isNone).getLast?.bind
        Part.text? := by
  have hlookup := lookup_reverse_filterMap Part.text? parts name
  simp only [Part.isSome_text?, ← Part.field?_eq] at hlookup
  exact hlookup

/-- A stream that does not break off is refused if and only if its parts have more bytes than
the limit, those without a name included. Otherwise each name has the last file and the last
text that came with it, and with the same bytes in other chunks the form is the same. -/
theorem read_whole (limit : Nat) (parts : List Part) :
    (∀ f, read limit ⟨parts, none⟩ = .error f ↔
        limit < (parts.flatMap Part.bytes).length ∧
          f = ⟨.validation, "Upload exceeds the " ++ toString limit ++ " byte limit"⟩) ∧
      ((parts.flatMap Part.bytes).length ≤ limit → ∃ form, read limit ⟨parts, none⟩ = .ok form ∧
        ∀ name,
          form.file? name = (parts.filter fun p =>
            p.name = some name ∧ p.fileName.isSome).getLast?.bind Part.upload? ∧
          form.field? name = (parts.filter fun p =>
            p.name = some name ∧ p.fileName.isNone).getLast?.bind Part.text?) ∧
      ∀ other : List Part, other.map Part.joined = parts.map Part.joined →
        read limit ⟨other, none⟩ = read limit ⟨parts, none⟩ := by
  refine ⟨fun f => ?_, fun hsize => ?_, fun other h => read_congr limit h none⟩
  · rw [read_eq]
    by_cases hsize : size parts ≤ limit
    · rw [if_pos hsize]
      exact iff_of_false (by simp) fun h => absurd hsize (Nat.not_le.mpr h.1)
    · rw [if_neg hsize, Except.error.injEq, eq_comm]
      exact (and_iff_right (Nat.lt_of_not_le hsize)).symm
  · have hread : read limit ⟨parts, none⟩ = .ok (ofParts parts) :=
      read_eq_ok_iff.mpr ⟨rfl, hsize, rfl⟩
    exact ⟨ofParts parts, hread, fun name =>
      ⟨file?_ofParts parts name, field?_ofParts parts name⟩⟩

/-- Two files and two texts of one name, and between them a part without a name. -/
def crowdedParts : List Part := [
  ⟨some "file", some "a.csv", none, [[97], [44, 98]]⟩,
  ⟨none, some "b.csv", none, [[0, 1], []]⟩,
  ⟨some "file", none, none, [[120]]⟩,
  ⟨some "file", some "c.csv", none, [[10]]⟩,
  ⟨some "file", none, none, [[], [121, 122]]⟩]

/-- There are nine bytes, which is one too many for a limit of eight, however they come. -/
theorem read_crowdedParts :
    (crowdedParts.flatMap Part.bytes).length ≤ 9 ∧ 8 < (crowdedParts.flatMap Part.bytes).length ∧
      (∃ form, read 9 ⟨crowdedParts, none⟩ = .ok form ∧
        form.file? "file" = some ⟨"c.csv", none, [10]⟩ ∧ form.field? "file" = some "yz") ∧
      read 8 ⟨crowdedParts, none⟩ = .error ⟨.validation, "Upload exceeds the 8 byte limit"⟩ ∧
      (crowdedParts.map Part.joined).map Part.joined = crowdedParts.map Part.joined ∧
      read 9 ⟨crowdedParts.map Part.joined, none⟩ = read 9 ⟨crowdedParts, none⟩ := by
  obtain ⟨-, hread, hchunks⟩ := read_whole 9 crowdedParts
  obtain ⟨form, hform, hnames⟩ := hread (by decide)
  obtain ⟨hfile, hfield⟩ := hnames "file"
  have hrefused := ((read_whole 8 crowdedParts).1 _).mpr ⟨by decide, rfl⟩
  exact ⟨by decide, by decide, ⟨form, hform, hfile, hfield⟩, hrefused, rfl, hchunks _ rfl⟩

end Form

end Datasheet
