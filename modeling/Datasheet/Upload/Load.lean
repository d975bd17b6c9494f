import Datasheet.Csv.Document
import Datasheet.Encoding.Windows1252
import Datasheet.Sheet.Basic
import Datasheet.Upload.FileName

/-!
# Tables from uploaded files

A file is read by its format: delimited text after decoding it, a workbook by
its first worksheet. How an encoding is guessed and how a workbook is opened is
left to a `FileReader`.
-/

namespace Datasheet

/-- A file as it was received. -/
structure Upload where
  fileName : String
  contentType : Option String
  bytes : List UInt8
deriving DecidableEq

/-- The worksheets in the bytes of a workbook. That it cannot be opened, or one of
its worksheets cannot be read, comes with a reason. -/
abbrev WorkbookReader := WorkbookFormat → List UInt8 → Except String (List (Except String Sheet))

/-- What files are read with. -/
structure FileReader where
  guess : EncodingGuess
  workbooks : WorkbookReader

/-- Takes bytes of an unknown encoding for windows-1252, and opens no workbook. -/
def FileReader.western : FileReader where
  guess _ := .windows1252
  workbooks _ _ := .error "no reader of workbooks"

/-- The bytes are no workbook. -/
def notAWorkbook (format : WorkbookFormat) (reason : String) : Failure :=
  ⟨.malformedFile, "Failed to open " ++ format.label ++ " workbook: " ++ reason⟩

/-- The workbook is empty. -/
def noWorksheet : Failure := ⟨.malformedFile, "No worksheet found"⟩

/-- The workbook can be opened, but not the worksheet that counts. -/
def unreadableWorksheet (reason : String) : Failure :=
  ⟨.malformedFile, "Failed to read worksheet: " ++ reason⟩

/-- The table in a workbook. -/
def loadWorkbook (reader : WorkbookReader) (format : WorkbookFormat) (bytes : List UInt8) :
    Except Failure Table :=
  match reader format bytes with
  | .error reason => .error (notAWorkbook format reason)
  | .ok [] => .error noWorksheet
  | .ok (.error reason :: _) => .error (unreadableWorksheet reason)
  | .ok (.ok sheet :: _) => .ok sheet.toTable

/-- The table in a file. -/
def Upload.load (reader : FileReader) (u : Upload) : Except Failure Table :=
  match FileFormat.ofName u.fileName with
  | .error e => .error e
  | .ok .csv => (Csv.read (Encoding.decodeFile reader.guess u.bytes)).map Csv.Document.table
  | .ok (.workbook format) => loadWorkbook reader.workbooks format u.bytes

end Datasheet
