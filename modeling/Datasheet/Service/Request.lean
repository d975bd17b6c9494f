import Datasheet.Json.Tree
import Datasheet.Service.Form

/-!
# Requests

A request names a route by its method and path (`Route.of?`). The path ends
before a query or a fragment, and its characters may be percent-encoded.
-/

namespace Datasheet

inductive Method where
  | get
  | post
deriving DecidableEq

inductive Payload where
  | none
  /-- Text that is said to be of a media type. -/
  | text (contentType content : String)
  | form (stream : FormStream)

structure Request where
  method : Method
  path : String
  payload : Payload

/-! ## Payloads -/

/-- How payloads are taken in. What is said of one that cannot be read is left open. -/
structure Intake where
  /-- The most bytes that a form or a JSON text may have. -/
  maxBytes : Nat
  /-- Why a payload is no form. -/
  formFault : Payload → String
  /-- Why a payload is no JSON record of some fields. -/
  jsonFault : List String → Payload → String

/-- Says the same of every payload that cannot be read. -/
def Intake.terse (maxBytes : Nat) : Intake where
  maxBytes := maxBytes
  formFault _ := "no form"
  jsonFault _ _ := "no such record"

/-- The payload is not the JSON record that the request needs. -/
def Intake.invalidJson (intake : Intake) (names : List String) (p : Payload) : Failure :=
  ⟨.validation, "Invalid JSON body: " ++ intake.jsonFault names p⟩

namespace Payload

/-- The form of a payload. -/
def form? (intake : Intake) : Payload → Except Failure Form
  | form stream => Form.read intake.maxBytes stream
  | p => .error (Form.malformed (intake.formFault p))

/-- The JSON text of a payload, if it is one and not too long. -/
def tree? (intake : Intake) : Payload → Option Tree
  | text contentType content =>
    if ((MediaType.parse? contentType.toList).map MediaType.isJson).getD false
        && content.utf8ByteSize ≤ intake.maxBytes then
      Tree.parse? content.toList
    else .none
  | none | form _ => .none

end Payload

/-! ## Routes -/

/-- The routes that work on a table and need no partner. -/
inductive TableRoute where
  | analyze
  | upload
  | dropColumns
  | addColumn
  | download
deriving DecidableEq

inductive Route where
  | health
  | logs
  | table (route : TableRoute)
  | collectEmail
  | submitForm
deriving DecidableEq

namespace Route

/-- A path without its query and fragment, with percent-encoded ASCII characters
decoded, but for the percent sign, the slash and the plus sign. -/
def decodePath : List Char → List Char
  | [] => []
  | '%' :: a :: b :: cs =>
    match JsonToken.hexValue? a, JsonToken.hexValue? b with
    | some high, some low =>
      let c := Char.ofNat (high * 16 + low)
      if high < 8 && c ∉ ['%', '/', '+'] then c :: decodePath cs else '%' :: decodePath (a :: b :: cs)
    | _, _ => '%' :: decodePath (a :: b :: cs)
  | c :: cs => if c = '?' || c = '#' then [] else c :: decodePath cs

def of? (method : Method) (path : String) : Option Route :=
  match method, String.ofList (decodePath path.toList) with
  | .get, "/health" => some health
  | .get, "/api/logs" => some logs
  | .post, "/analyze" => some (table .analyze)
  | .post, "/upload" => some (table .upload)
  | .post, "/drop-columns" => some (table .dropColumns)
  | .post, "/add-column" => some (table .addColumn)
  | .post, "/download" => some (table .download)
  | .post, "/api/collect_email" => some collectEmail
  | .post, "/submit-form" => some submitForm
  | _, _ => none

end Route

end Datasheet
