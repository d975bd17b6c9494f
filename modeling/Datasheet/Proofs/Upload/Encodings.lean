import Datasheet.Proofs.Encoding.Utf16
import Datasheet.Upload.Load

/-!
# The same text in every encoding

A text that is given in UTF-8, with or without a byte-order mark, or in UTF-16 with one
(`Encoding.Holds`) is found to be in that encoding and decoded to itself, so an uploaded
file is read as the text that it holds (`Encoding.Holds.load_eq_readTable`). No encoding is
guessed for it.
-/

namespace Datasheet.Encoding

/-- The bytes hold the text in an encoding that can be told for certain. -/
inductive Holds : Encoding → List Char → List UInt8 → Prop where
  | utf8 (cs : List Char) : Holds .utf8 cs (Utf8.encode cs)
  | markedUtf8 (cs : List Char) : Holds .utf8 cs (0xEF :: 0xBB :: 0xBF :: Utf8.encode cs)
  | utf16Little (cs : List Char) :
      Holds (.utf16 .little) cs (0xFF :: 0xFE :: Utf16.encode .little cs)
  | utf16Big (cs : List Char) : Holds (.utf16 .big) cs (0xFE :: 0xFF :: Utf16.encode .big cs)

/-- Nothing of a text that was encoded is malformed. -/
theorem replaceMalformed_map_some (cs : List Char) : replaceMalformed (cs.map some) = cs := by
  rw [replaceMalformed, List.map_map]
  exact List.map_id cs

theorem decode_utf8_encode (cs : List Char) : decode .utf8 (Utf8.encode cs) = cs := by
  rw [decode, Utf8.decode_encode, replaceMalformed_map_some]

theorem decode_utf16_encode (order : Utf16.ByteOrder) (cs : List Char) :
    decode (.utf16 order) (Utf16.encode order cs) = cs := by
  rw [decode, Utf16.decode_encode, replaceMalformed_map_some]

namespace Holds

variable {encoding : Encoding} {cs : List Char} {bytes : List UInt8}

/-- The encoding is recognized, by the mark if there is one. Without a mark the text may
not begin with one. -/
theorem detect_eq (guess : EncodingGuess) (h : Holds encoding cs bytes)
    (hmark : cs.head? ≠ some '\uFEFF') : (detect guess bytes).1 = encoding := by
  cases h with
  | utf8 => rw [detect, ofMark?_encode hmark, Utf8.isValid_encode, if_pos rfl]
  | markedUtf8 => rfl
  | utf16Little => rfl
  | utf16Big => rfl

theorem decodeFile_eq (guess : EncodingGuess) (h : Holds encoding cs bytes)
    (hmark : cs.head? ≠ some '\uFEFF') : decodeFile guess bytes = cs := by
  cases h with
  | utf8 => exact decodeFile_encode guess hmark
  | markedUtf8 => exact decode_utf8_encode cs
  | utf16Little => exact decode_utf16_encode .little cs
  | utf16Big => exact decode_utf16_encode .big cs

end Holds

/-- A file of delimited text is read in each encoding as the text that it holds, whether
that is a table or not, and whatever else the reader of files would guess and open. -/
theorem Holds.load_eq_readTable {encoding : Encoding} {text : String} {bytes : List UInt8}
    (h : Holds encoding text.toList bytes) (hmark : text.toList.head? ≠ some '\uFEFF') :
    (∀ guess : EncodingGuess,
        (detect guess bytes).1 = encoding ∧ decodeFile guess bytes = text.toList) ∧
      ∀ (reader : FileReader) (fileName : String) (contentType : Option String),
        FileFormat.ofName fileName = .ok .csv →
          Upload.load reader ⟨fileName, contentType, bytes⟩ = Csv.readTable text := by
  refine ⟨fun guess => ⟨h.detect_eq guess hmark, h.decodeFile_eq guess hmark⟩,
    fun reader fileName contentType hname => ?_⟩
  rw [Upload.load, hname]
  dsimp only
  rw [h.decodeFile_eq reader.guess hmark, Csv.readTable]

/-- A name of two UTF-8 bytes and a cell beyond the basic plane. -/
def nordicText : String := "é,b\n𝄞,\n"

/-- The text in UTF-16 with the high byte first. -/
def nordicBytes : List UInt8 :=
  [0xFE, 0xFF, 0x00, 0xE9, 0x00, 0x2C, 0x00, 0x62, 0x00, 0x0A, 0xD8, 0x34, 0xDD, 0x1E, 0x00, 0x2C,
    0x00, 0x0A]

theorem load_nordicBytes :
    Holds (.utf16 .big) nordicText.toList nordicBytes ∧
      nordicText.toList.head? ≠ some '\uFEFF' ∧ FileFormat.ofName "tunes.CSV" = .ok .csv ∧
      (∀ guess : EncodingGuess, decodeFile guess nordicBytes = nordicText.toList) ∧
      Upload.load .western ⟨"tunes.CSV", none, nordicBytes⟩ = Csv.readTable nordicText := by
  have hbytes : Holds (.utf16 .big) nordicText.toList nordicBytes := .utf16Big nordicText.toList
  have hname : FileFormat.ofName "tunes.CSV" = .ok .csv := by rfl
  obtain ⟨hdecode, hload⟩ := hbytes.load_eq_readTable (by decide)
  exact ⟨hbytes, by decide, hname, fun guess => (hdecode guess).2,
    hload .western "tunes.CSV" none hname⟩

end Datasheet.Encoding
