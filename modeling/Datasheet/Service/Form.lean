import Datasheet.Encoding.Basic
import Datasheet.Service.MediaType
import Datasheet.Upload.Load

/-!
# Forms

A form arrives as a stream of parts, each in chunks. Reading it (`Form.read`)
gathers a part with a file name as a file and any other as a text field, keeps
the two kinds apart, and stops as soon as the chunks so far exceed a limit. Of
parts of one name and kind the last one counts.
-/

namespace Datasheet

/-- One part of a form. -/
structure Part where
  name : Option String
  fileName : Option String
  contentType : Option MediaType
  chunks : List (List UInt8)

/-- What there is to read of a form: its first parts, and why nothing can be read
after them, unless that is the end of the form. -/
structure FormStream where
  parts : List Part
  fault : Option String

/-- A form breaks off at a part without a name, for this reason, or if it has no part. -/
def FormStream.ofParts (reason : String) (parts : List Part) : FormStream where
  parts := parts.takeWhile (·.name.isSome)
  fault := if parts.isEmpty || parts.any (·.name.isNone) then some reason else none

structure Form where
  fields : List (String × String)
  files : List (String × Upload)

namespace Form

def empty : Form := ⟨[], []⟩

/-- The text of a field. -/
def field? (form : Form) (name : String) : Option String := form.fields.lookup name

def file? (form : Form) (name : String) : Option Upload := form.files.lookup name

/-- Adds what a part holds; a part without a name adds nothing. -/
def insert (form : Form) (p : Part) (bytes : List UInt8) : Form :=
  match p.name, p.fileName with
  | none, _ => form
  | some name, some fileName =>
    let upload := ⟨fileName, p.contentType.map MediaType.text, bytes⟩
    { form with files := (name, upload) :: form.files }
  | some name, none =>
    let text := String.ofList (Encoding.utf8.decode bytes)
    { form with fields := (name, text) :: form.fields }

/-- The form holds more bytes than may be uploaded. -/
def tooLarge (limit : Nat) : Failure :=
  ⟨.validation, "Upload exceeds the " ++ toString limit ++ " byte limit"⟩

/-- The form cannot be read to its end. -/
def malformed (reason : String) : Failure := ⟨.validation, "Invalid multipart body: " ++ reason⟩

/-- Joins chunks to the bytes of a part, when `total` bytes have been read before:
the bytes, and the new total. -/
def joinChunks (limit total : Nat) (bytes : List UInt8) :
    List (List UInt8) → Except Failure (List UInt8 × Nat)
  | [] => .ok (bytes, total)
  | chunk :: chunks =>
    if limit < total + chunk.length then .error (tooLarge limit)
    else joinChunks limit (total + chunk.length) (bytes ++ chunk) chunks

/-- Adds parts to a form, when `total` bytes have been read before. -/
def readParts (limit total : Nat) (form : Form) : List Part → Except Failure Form
  | [] => .ok form
  | p :: parts =>
    match joinChunks limit total [] p.chunks with
    | .error f => .error f
    | .ok (bytes, total) => readParts limit total (form.insert p bytes) parts

/-- The form in a stream. -/
def read (limit : Nat) (stream : FormStream) : Except Failure Form :=
  match readParts limit 0 empty stream.parts with
  | .error f => .error f
  | .ok form =>
    match stream.fault with
    | none => .ok form
    | some reason => .error (malformed reason)

end Form

end Datasheet
