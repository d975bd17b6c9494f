import Datasheet.Csv.Writer
import Datasheet.Profile.Report
import Datasheet.Rule.Apply
import Datasheet.Service.Record
import Datasheet.Service.Response
import Datasheet.Text.Quoted

/-!
# Requests about tables

Profiling a table, showing its first rows, editing its columns and saving it. A
table comes as an uploaded file, or as delimited text within a JSON record; it
is not kept. Such a request has an answer and perhaps an entry for the log
(`Outcome`), which may be there even if the answer is a failure.
-/

namespace Datasheet

/-- What an answer depends on beside the request. -/
structure Setting where
  intake : Intake
  /-- How many rows of an edited table are shown. -/
  pageRows : Nat
  reader : FileReader

/-- What becomes of a request. -/
structure Outcome where
  entry : Option LogEntry
  answer : Except Failure Response

namespace Outcome

/-- The request fails before it is worth an entry. -/
def failure (f : Failure) : Outcome := ⟨none, .error f⟩

def response (o : Outcome) : Response :=
  match o.answer with
  | .ok r => r
  | .error f => f.response

end Outcome

namespace Setting

def invalid (message : String) : Failure := ⟨.validation, message⟩

/-- The uploaded file of a form, which needs a name. -/
def file (form : Form) (absent unnamed : String) : Except Failure Upload :=
  match form.file? "file" with
  | none => .error (invalid absent)
  | some file => if file.fileName = "" then .error (invalid unnamed) else .ok file

/-- The first rows of a table. -/
def showTable (s : Setting) (t : Table) : Response := .ok (t.page s.pageRows).toJson

/-- The profile of an uploaded table. -/
def profileUpload (s : Setting) (p : Payload) : Outcome :=
  match (p.form? s.intake).bind (file · "No file part" "No selected file") with
  | .error f => .failure f
  | .ok file =>
    let message := "Profiling " ++ file.fileName ++ " (" ++ toString file.bytes.length ++ " bytes)"
    { entry := some ⟨"INFO", "Analyze", message⟩
      answer := (file.load s.reader).map fun t => .ok (Profile.ofTable t).toJson }

/-- The first rows of an uploaded table. -/
def showUpload (s : Setting) (p : Payload) : Outcome :=
  match (p.form? s.intake).bind (file · "No file provided" "No file provided") with
  | .error f => .failure f
  | .ok file =>
    { entry := some ⟨"INFO", "Edit", "Loading " ++ file.fileName ++ " for editing"⟩
      answer := (file.load s.reader).map s.showTable }

def missingContent : Failure := invalid "Missing file content"

/-- The first rows of a table without some columns. -/
def dropColumns (s : Setting) (p : Payload) : Outcome :=
  match DropRequest.of? s.intake p with
  | none => .failure (s.intake.invalidJson DropRequest.fields p)
  | some r =>
    match given r.content with
    | none => .failure missingContent
    | some content =>
      match Csv.readTable content with
      | .error f => .failure f
      | .ok t =>
        { entry := some ⟨"INFO", "Edit", "Dropped " ++ quotedList r.columns⟩
          answer := .ok (s.showTable (t.dropColumns r.columns)) }

/-- The first rows of a table with a new column. -/
def addColumn (s : Setting) (p : Payload) : Outcome :=
  match AddRequest.of? s.intake p with
  | none => .failure (s.intake.invalidJson AddRequest.fields p)
  | some r =>
    match given r.content, given r.name with
    | some content, some name =>
      match Csv.readTable content with
      | .error f => .failure f
      | .ok t =>
        { entry := some ⟨"INFO", "Edit", "Adding column '" ++ name ++ "' (" ++ r.rule.kind ++ ")"⟩
          answer := (r.rule.apply t name).map s.showTable }
    | _, _ => .failure (invalid "Missing file content or new_col")

/-- A table as a file. -/
def saveTable (s : Setting) (p : Payload) : Outcome :=
  match p.textField? s.intake "file_content" with
  | none => .failure (s.intake.invalidJson ["file_content"] p)
  | some content =>
    match given content with
    | none => .failure missingContent
    | some content =>
      { entry := none
        answer := (Csv.readTable content).bind fun t => (Csv.save t).map .csvFile }

end Setting

/-- What becomes of a request on a route. -/
def TableRoute.outcome (s : Setting) : TableRoute → Payload → Outcome
  | analyze => s.profileUpload
  | upload => s.showUpload
  | dropColumns => s.dropColumns
  | addColumn => s.addColumn
  | download => s.saveTable

end Datasheet
