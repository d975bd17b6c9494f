import Datasheet.Json.Read

/-!
# Replies of the webhook

The body of a reply is a JSON value if it can be read as one, else plain text.
-/

namespace Datasheet

inductive WebhookBody where
  | json (value : Json)
  | plain (text : String)

namespace WebhookBody

def ofText (s : String) : WebhookBody :=
  match Json.parse? s.toList with
  | some value => json value
  | none => plain s

/-- The body as text: of a JSON string its content, else the JSON text. -/
def asText : WebhookBody → String
  | json (.text s) => s
  | json value => value.toText
  | plain s => s

def toJson : WebhookBody → Json
  | json value => value
  | plain s => .text s

end WebhookBody

structure WebhookReply where
  status : Nat
  body : WebhookBody

/-- The webhook has taken what it was sent. -/
def WebhookReply.isSuccess (r : WebhookReply) : Bool := 200 ≤ r.status && r.status < 300

end Datasheet
