import Datasheet.Email.Basic
import Datasheet.Service.Record
import Datasheet.Service.Response
import Datasheet.Service.WebhookReply

/-!
# Users and their submissions

A user is stored by email address, and may submit a file, which is then sent on.
Storing and sending are done by partners with a state of their own (`Partners`).
Nothing is sent on unless its sender is stored.
-/

namespace Datasheet

/-- The partners of a service, whose state is of type `σ`. -/
structure Partners (σ : Type) where
  /-- Stores a user, new or known; the answer is the address as stored. -/
  upsert : String → σ → Except Failure String × σ
  /-- Sends on the file of a user. -/
  forward : String → Upload → σ → Except Failure WebhookReply × σ

namespace Partners

variable {σ : Type}

/-- Stores the user of an address. -/
def captureEmail (p : Partners σ) (email : Option String) (s : σ) : Except Failure String × σ :=
  match Email.read email with
  | .error f => (.error f, s)
  | .ok address => p.upsert address s

/-- There is nothing to send on. -/
def noFile : Failure := ⟨.validation, "No file uploaded"⟩

/-- Stores the user of an address, then sends on the file. -/
def submit (p : Partners σ) (email : Option String) (file : Option Upload) (s : σ) :
    Except Failure WebhookReply × σ :=
  match Email.read email with
  | .error f => (.error f, s)
  | .ok address =>
    match p.upsert address s with
    | (.error f, s) => (.error f, s)
    | (.ok _, s) =>
      match file with
      | none => (.error noFile, s)
      | some file => p.forward address file s

/-- Handles a request that gives an email address. -/
def collectEmail (p : Partners σ) (intake : Intake) (payload : Payload) (s : σ) : Response × σ :=
  match payload.textField? intake "email" with
  | none => ((intake.invalidJson ["email"] payload).response, s)
  | some email =>
    match p.captureEmail email s with
    | (.error f, s) => (f.response, s)
    | (.ok address, s) =>
      (.ok (.object [("email", .text address), ("status", .text "ok")]), s)

end Partners

/-! ## Answers to submissions -/

namespace WebhookReply

/-- The status with which a reply is passed on; one that cannot be is an error of
the gateway. -/
def relayedStatus (r : WebhookReply) : Nat := if 100 ≤ r.status && r.status < 1000 then r.status else 502

/-- The answer to the sender of a form. -/
def response (r : WebhookReply) : Response :=
  if r.isSuccess then
    .ok (.object [("result", r.body.toJson), ("status", .text "success")])
  else ⟨r.relayedStatus, .json (Failure.formAnswer r.body.asText)⟩

/-- The entry that the log gets. -/
def entry (r : WebhookReply) : LogEntry :=
  if r.isSuccess then ⟨"INFO", "SubmitForm", "Form forwarded to webhook"⟩
  else ⟨"WARN", "SubmitForm", "Webhook answered " ++ toString r.status⟩

end WebhookReply

/-- The entry that the log gets for a submission that fails. -/
def Failure.submissionEntry (f : Failure) : LogEntry := ⟨"ERROR", "SubmitForm", f.display⟩

/-- What the log gets, and the answer to a form that submits a file. -/
def Partners.submitForm {σ : Type} (p : Partners σ) (intake : Intake) (payload : Payload) (s : σ) :
    (Option LogEntry × Response) × σ :=
  match payload.form? intake with
  | .error f => ((none, f.formResponse), s)
  | .ok form =>
    let file := (form.file? "file").filter (·.fileName ≠ "")
    match p.submit (form.field? "email") file s with
    | (.error f, s) => ((some f.submissionEntry, f.formResponse), s)
    | (.ok reply, s) => ((some reply.entry, reply.response), s)

end Datasheet
