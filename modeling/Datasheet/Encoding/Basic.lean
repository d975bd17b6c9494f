import Datasheet.Encoding.Utf8
import Datasheet.Encoding.Utf16

/-!
# Text encodings of files

A byte-order mark decides the encoding of a file; without one it is UTF-8 if it
can be. Otherwise it has to be guessed (`EncodingGuess`), which is left open here,
as is how the encodings are decoded that no mark names. Decoding drops the mark
and puts U+FFFD in the place of every malformed part, so it always gives a text.
-/

namespace Datasheet

/-- An encoding that no mark names. -/
structure LegacyEncoding where
  name : String
  /-- The text of bytes, with U+FFFD for malformed parts. -/
  decode : List UInt8 → List Char

inductive Encoding where
  | utf8
  | utf16 (order : Utf16.ByteOrder)
  | legacy (encoding : LegacyEncoding)

/-- Guesses the encoding of bytes that have no mark and are not UTF-8. -/
abbrev EncodingGuess := List UInt8 → Encoding

namespace Encoding

def name : Encoding → String
  | utf8 => "UTF-8"
  | utf16 .little => "UTF-16LE"
  | utf16 .big => "UTF-16BE"
  | legacy encoding => encoding.name

/-- The encoding that a byte-order mark names, and the bytes after the mark. -/
def ofMark? : List UInt8 → Option (Encoding × List UInt8)
  | 0xEF :: 0xBB :: 0xBF :: rest => some (utf8, rest)
  | 0xFF :: 0xFE :: rest => some (utf16 .little, rest)
  | 0xFE :: 0xFF :: rest => some (utf16 .big, rest)
  | _ => none

/-- The encoding of a file, and its bytes without the mark. -/
def detect (guess : EncodingGuess) (bytes : List UInt8) : Encoding × List UInt8 :=
  match ofMark? bytes with
  | some found => found
  | none => (if Utf8.isValid bytes then utf8 else guess bytes, bytes)

/-- A decoded text with U+FFFD for malformed parts. -/
def replaceMalformed (cs : List (Option Char)) : List Char := cs.map (·.getD '\uFFFD')

/-- The text of bytes without a mark. -/
def decode : Encoding → List UInt8 → List Char
  | utf8, bytes => replaceMalformed (Utf8.decode bytes)
  | utf16 order, bytes => replaceMalformed (Utf16.decode order bytes)
  | legacy encoding, bytes => encoding.decode bytes

/-- The text of a file. -/
def decodeFile (guess : EncodingGuess) (bytes : List UInt8) : List Char :=
  (detect guess bytes).1.decode (detect guess bytes).2

end Encoding

end Datasheet
