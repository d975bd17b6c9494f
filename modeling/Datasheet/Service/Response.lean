import Datasheet.Failure
import Datasheet.Json.Basic
import Datasheet.Service.Log

/-!
# Responses

What a service answers. A failure of the client's making is answered with its
message; of any other the client learns no more than that there was one
(`Failure.publicMessage`), and that of the user store only when it submits a
form (`Failure.formMessage`).
-/

namespace Datasheet

def LogEntry.toJson (e : LogEntry) : Json :=
  .object [("level", .text e.level), ("source", .text e.source), ("message", .text e.message)]

inductive Content where
  | none
  | json (value : Json)
  /-- Delimited text to be saved as a file. -/
  | csvFile (text : List Char)
  | log (entries : List LogEntry)

namespace Content

def mediaType? : Content → Option String
  | none => .none
  | json _ | log _ => some "application/json"
  | csvFile _ => some "text/csv"

/-- The text of the content. -/
def text : Content → List Char
  | none => []
  | json value => value.render
  | csvFile text => text
  | log entries => (Json.list (entries.map LogEntry.toJson)).render

/-- The name under which a file is to be saved. -/
def fileName? : Content → Option String
  | csvFile _ => some "edited.csv"
  | none | json _ | log _ => .none

/-- What is to be done with a file instead of showing it. -/
def disposition? (c : Content) : Option String :=
  c.fileName?.map fun name => "attachment; filename=\"" ++ name ++ "\""

end Content

structure Response where
  status : Nat
  content : Content

namespace Response

def ok (value : Json) : Response := ⟨200, .json value⟩

def csvFile (text : List Char) : Response := ⟨200, .csvFile text⟩

def notFound : Response := ⟨404, .none⟩

end Response

namespace Failure

/-- A failure as stored data. -/
def toJson (f : Failure) : Json := .object [(f.kind.tag, .text f.message)]

def status (f : Failure) : Nat := if f.isClient then 400 else 500

/-- All that a client learns of a failure that it has not caused. -/
def withheld : String := "Internal server error"

/-- What a client learns of a failure. -/
def publicMessage (f : Failure) : String := if f.isClient then f.message else withheld

/-- What the sender of a form learns of a failure. -/
def formMessage (f : Failure) : String :=
  if f.isClient then f.message
  else if f.kind = .database then "Database error"
  else withheld

/-- The answer to a form that could not be handled. -/
def formAnswer (message : String) : Json :=
  .object [("message", .text message), ("status", .text "error")]

def response (f : Failure) : Response :=
  ⟨f.status, .json (.object [("error", .text f.publicMessage)])⟩

def formResponse (f : Failure) : Response := ⟨f.status, .json (formAnswer f.formMessage)⟩

end Failure

end Datasheet
