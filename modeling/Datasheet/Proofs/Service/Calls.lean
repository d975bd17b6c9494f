import Datasheet.Proofs.Email.Address
import Datasheet.Proofs.Service.Forms
import Datasheet.Service.Basic
import Mathlib.Data.List.Forall2

/-!
# Which calls a service makes

The partners of a service can be made to keep a record of their calls (`Call`,
`Partners.recorded`), which changes nothing else. A request that brings an accepted
address has its user stored once; its file is sent on if that succeeds; and no other
call is made.

* `Partners.submit_recorded`: there are four ways in which a submission can end
  (`Submits`), and `Service.handle_recorded` finds them again in what becomes of a
  request;
* `Service.run_recorded`: the calls in a run are those for its requests, in turn;
* `Service.run_warrants`: so each call has its reason in a request of its own
  (`Request.Warrants`), and no request is without the calls that it gives reason to.
-/

namespace Datasheet

/-- A call of a partner, and its answer. -/
inductive Call where
  | upsert (address : String) (answer : Except Failure String)
  | forward (address : String) (file : Upload) (answer : Except Failure WebhookReply)

namespace Call

/-- The address that the call passes. -/
def address : Call → String
  | upsert address _ | forward address _ _ => address

/-- The address that is stored, if the call is to store one. -/
def stored? : Call → Option String
  | upsert address _ => some address
  | forward _ _ _ => none

end Call

variable {σ : Type}

/-- The partners with a record of their calls, oldest first. -/
def Partners.recorded (p : Partners σ) : Partners (σ × List Call) where
  upsert address s :=
    let (answer, kept) := p.upsert address s.1
    (answer, (kept, s.2 ++ [.upsert address answer]))
  forward address file s :=
    let (answer, kept) := p.forward address file s.1
    (answer, (kept, s.2 ++ [.forward address file answer]))

/-- The service with a record of the calls of its partners. -/
def Service.recorded (service : Service σ) : Service (σ × List Call) where
  setting := service.setting
  partners := service.partners.recorded

/-- The state with a record of the calls so far. -/
def ServiceState.recorded (s : ServiceState σ) (calls : List Call) :
    ServiceState (σ × List Call) where
  log := s.log
  partners := (s.partners, calls)

/-! ## One submission -/

/-- The calls for an accepted address, if there is one, and a file, if there is one. -/
inductive Submits : Option String → Option Upload → List Call → Prop where
  | refused (file : Option Upload) : Submits none file []
  | failed (address : String) (file : Option Upload) (f : Failure) :
      Submits (some address) file [.upsert address (.error f)]
  | unsent (address stored : String) :
      Submits (some address) none [.upsert address (.ok stored)]
  | sent (address : String) (file : Upload) (stored : String)
      (answer : Except Failure WebhookReply) :
      Submits (some address) (some file)
        [.upsert address (.ok stored), .forward address file answer]

namespace Submits

variable {address? : Option String} {file? : Option Upload} {calls : List Call}

/-- The accepted address is stored once, and nothing else is. -/
theorem filterMap_stored? (h : Submits address? file? calls) :
    calls.filterMap Call.stored? = address?.toList := by
  cases h <;> rfl

/-- No call passes another address. -/
theorem address_of_mem (h : Submits address? file? calls) {call : Call} (hcall : call ∈ calls) :
    address? = some call.address := by
  cases h with
  | refused => exact absurd hcall List.not_mem_nil
  | failed => rw [List.mem_singleton.mp hcall]; rfl
  | unsent => rw [List.mem_singleton.mp hcall]; rfl
  | sent =>
    rcases List.mem_cons.mp hcall with rfl | hcall
    · rfl
    · rw [List.mem_singleton.mp hcall]; rfl

/-- A file is sent on only right after its sender is stored. -/
theorem of_forward_mem (h : Submits address? file? calls) {address : String} {file : Upload}
    {answer : Except Failure WebhookReply} (hcall : .forward address file answer ∈ calls) :
    file? = some file ∧
      ∃ stored, calls = [.upsert address (.ok stored), .forward address file answer] := by
  cases h with
  | refused => exact absurd hcall List.not_mem_nil
  | failed => exact nomatch List.mem_singleton.mp hcall
  | unsent => exact nomatch List.mem_singleton.mp hcall
  | sent _ _ stored =>
    rcases List.mem_cons.mp hcall with hstore | hcall
    · cases hstore
    · cases List.mem_singleton.mp hcall
      exact ⟨rfl, stored, rfl⟩

/-- If there is a file, it is sent on when its sender is stored. -/
theorem exists_forward_mem (h : Submits address? file? calls) {address stored : String}
    {file : Upload} (hfile : file? = some file) (hcall : .upsert address (.ok stored) ∈ calls) :
    ∃ answer, .forward address file answer ∈ calls := by
  cases h with
  | refused => exact absurd hcall List.not_mem_nil
  | failed => exact nomatch List.mem_singleton.mp hcall
  | unsent => cases hfile
  | sent _ _ _ answer =>
    cases hfile
    rcases List.mem_cons.mp hcall with hstore | hcall
    · cases hstore
      exact ⟨answer, List.mem_cons_of_mem _ List.mem_cons_self⟩
    · exact nomatch List.mem_singleton.mp hcall

end Submits

namespace Partners

variable (p : Partners σ)

theorem recorded_upsert (address : String) (s : σ) (calls : List Call) :
    p.recorded.upsert address (s, calls) = ((p.upsert address s).1,
      ((p.upsert address s).2, calls ++ [.upsert address (p.upsert address s).1])) := rfl

theorem recorded_forward (address : String) (file : Upload) (s : σ) (calls : List Call) :
    p.recorded.forward address file (s, calls) = ((p.forward address file s).1,
      ((p.forward address file s).2,
        calls ++ [.forward address file (p.forward address file s).1])) := rfl

theorem captureEmail_recorded (email : Option String) (s : σ) :
    ∃ new, Submits (Email.accepted? email) none new ∧
      ∀ calls, p.recorded.captureEmail email (s, calls) =
        ((p.captureEmail email s).1, ((p.captureEmail email s).2, calls ++ new)) := by
  simp only [captureEmail, ← Email.toOption_read]
  cases Email.read email with
  | error f => exact ⟨[], .refused none, fun calls => by rw [List.append_nil]⟩
  | ok address =>
    refine ⟨_, ?_, p.recorded_upsert address s⟩
    cases (p.upsert address s).1 with
    | error f => exact .failed address none f
    | ok stored => exact .unsent address stored

theorem submit_recorded (email : Option String) (file : Option Upload) (s : σ) :
    ∃ new, Submits (Email.accepted? email) file new ∧
      ∀ calls, p.recorded.submit email file (s, calls) =
        ((p.submit email file s).1, ((p.submit email file s).2, calls ++ new)) := by
  simp only [submit, ← Email.toOption_read]
  cases Email.read email with
  | error f => exact ⟨[], .refused file, fun calls => by rw [List.append_nil]⟩
  | ok address =>
    simp only [recorded_upsert]
    rcases p.upsert address s with ⟨f | stored, kept⟩
    · exact ⟨_, .failed address file f, fun calls => rfl⟩
    · cases file with
      | none => exact ⟨_, .unsent address stored, fun calls => rfl⟩
      | some file =>
        refine ⟨_, .sent address file stored (p.forward address file kept).1, fun calls => ?_⟩
        simp only [recorded_forward, List.append_assoc, List.singleton_append]

theorem collectEmail_recorded (intake : Intake) (payload : Payload) (s : σ) :
    ∃ new, Submits ((payload.textField? intake "email").bind Email.accepted?) none new ∧
      ∀ calls, p.recorded.collectEmail intake payload (s, calls) =
        ((p.collectEmail intake payload s).1,
          ((p.collectEmail intake payload s).2, calls ++ new)) := by
  simp only [collectEmail]
  cases payload.textField? intake "email" with
  | none => exact ⟨[], .refused none, fun calls => by rw [List.append_nil]⟩
  | some email =>
    obtain ⟨new, hnew, hcalls⟩ := p.captureEmail_recorded email s
    refine ⟨new, hnew, fun calls => ?_⟩
    simp only [hcalls]
    rcases p.captureEmail email s with ⟨f | address, kept⟩ <;> rfl

end Partners

/-! ## One request -/

/-- The file of a form, if it has a name. -/
def Form.namedFile? (form : Form) : Option Upload := (form.file? "file").filter (·.fileName ≠ "")

theorem Partners.submitForm_recorded (p : Partners σ) (intake : Intake) (payload : Payload)
    (s : σ) :
    ∃ new, Submits
        ((payload.form? intake).toOption.bind fun form => Email.accepted? (form.field? "email"))
        ((payload.form? intake).toOption.bind Form.namedFile?) new ∧
      ∀ calls, p.recorded.submitForm intake payload (s, calls) =
        ((p.submitForm intake payload s).1, ((p.submitForm intake payload s).2, calls ++ new)) := by
  simp only [submitForm]
  cases payload.form? intake with
  | error f => exact ⟨[], .refused none, fun calls => by rw [List.append_nil]⟩
  | ok form =>
    obtain ⟨new, hnew, hcalls⟩ := p.submit_recorded (form.field? "email") form.namedFile? s
    refine ⟨new, hnew, fun calls => ?_⟩
    simp only [Form.namedFile?] at hcalls
    simp only [hcalls]
    rcases p.submit _ _ s with ⟨f | reply, kept⟩ <;> rfl

namespace Request

/-- The accepted address that a request brings. -/
def address? (intake : Intake) (r : Request) : Option String :=
  match Route.of? r.method r.path with
  | some .collectEmail => (r.payload.textField? intake "email").bind Email.accepted?
  | some .submitForm =>
    (r.payload.form? intake).toOption.bind fun form => Email.accepted? (form.field? "email")
  | _ => none

/-- The file with a name that a request submits. -/
def file? (intake : Intake) (r : Request) : Option Upload :=
  match Route.of? r.method r.path with
  | some .submitForm => (r.payload.form? intake).toOption.bind Form.namedFile?
  | _ => none

/-- One of the parts of a request is the file. -/
def Encloses (r : Request) (file : Upload) : Prop :=
  ∃ stream, r.payload = .form stream ∧ ∃ p ∈ stream.parts, p.file? = some ("file", file)

theorem of_file? {intake : Intake} {r : Request} {file : Upload} (h : r.file? intake = some file) :
    Route.of? r.method r.path = some .submitForm ∧ r.Encloses file ∧ file.fileName ≠ "" := by
  rw [file?] at h
  split at h
  · rename_i hroute
    obtain ⟨form, hform, hnamed⟩ := Option.bind_eq_some_iff.mp h
    obtain ⟨hfile, hname⟩ := Option.filter_eq_some_iff.mp hnamed
    obtain ⟨stream, hpayload, hread⟩ := Payload.exists_of_form? hform
    have hencloses : r.Encloses file := ⟨stream, hpayload, Form.exists_part_of_file? hread hfile⟩
    exact ⟨hroute, hencloses, of_decide_eq_true hname⟩
  · cases h

/-- An address is given on two routes only. -/
theorem address?_eq_none {intake : Intake} {r : Request}
    (h : Route.of? r.method r.path ∉ [some .collectEmail, some .submitForm]) :
    r.address? intake = none := by
  rw [address?]
  split <;> simp_all

theorem isSimple_of_address? {intake : Intake} {r : Request} {address : String}
    (h : r.address? intake = some address) : Email.IsSimple address := by
  rw [address?] at h
  split at h
  · obtain ⟨email, -, haccepted⟩ := Option.bind_eq_some_iff.mp h
    exact Email.isSimple_of_accepted haccepted
  · obtain ⟨form, -, haccepted⟩ := Option.bind_eq_some_iff.mp h
    exact Email.isSimple_of_accepted haccepted
  · cases h

/-- The calls are those for which a request gives reason. -/
structure Warrants (intake : Intake) (r : Request) (calls : List Call) : Prop where
  /-- The accepted address is stored once, and nothing else is. -/
  stored_eq : calls.filterMap Call.stored? = (r.address? intake).toList
  /-- A file is sent on only if it is that of a form, has a name, and its sender has
  just been stored. -/
  of_forward_mem {address : String} {file : Upload} {answer : Except Failure WebhookReply} :
    .forward address file answer ∈ calls →
      Route.of? r.method r.path = some .submitForm ∧ r.Encloses file ∧ file.fileName ≠ "" ∧
        ∃ stored, calls = [.upsert address (.ok stored), .forward address file answer]
  /-- A file with a name is sent on whenever its sender is stored. -/
  exists_forward_mem {address stored : String} {file : Upload} :
    r.file? intake = some file → .upsert address (.ok stored) ∈ calls →
      ∃ answer, .forward address file answer ∈ calls
  /-- An address has one at sign, and beside it words, points and hyphens only. -/
  isSimple_address : ∀ call ∈ calls, Email.IsSimple call.address
  /-- On other routes there are no calls. -/
  eq_nil : Route.of? r.method r.path ∉ [some .collectEmail, some .submitForm] → calls = []

end Request

theorem Submits.warrants {intake : Intake} {r : Request} {calls : List Call}
    (h : Submits (r.address? intake) (r.file? intake) calls) : r.Warrants intake calls where
  stored_eq := h.filterMap_stored?
  of_forward_mem hcall := by
    obtain ⟨hfile, hcalls⟩ := h.of_forward_mem hcall
    obtain ⟨hroute, hencloses, hname⟩ := Request.of_file? hfile
    exact ⟨hroute, hencloses, hname, hcalls⟩
  exists_forward_mem := h.exists_forward_mem
  isSimple_address call hcall := Request.isSimple_of_address? (h.address_of_mem hcall)
  eq_nil hroute := by
    rw [Request.address?_eq_none hroute] at h
    cases h
    rfl

namespace Service

variable (service : Service σ)

/-- The calls that a service makes to answer a request. -/
def calls (r : Request) (s : ServiceState σ) : List Call :=
  (service.recorded.handle r (s.recorded [])).2.partners.2

/-- A request is answered as without the record, to which its calls are added. -/
theorem handle_recorded (r : Request) (s : ServiceState σ) :
    Submits (r.address? service.setting.intake) (r.file? service.setting.intake)
        (service.calls r s) ∧
      ∀ before, service.recorded.handle r (s.recorded before) =
        ((service.handle r s).1,
          (service.handle r s).2.recorded (before ++ service.calls r s)) := by
  suffices ∃ new,
      Submits (r.address? service.setting.intake) (r.file? service.setting.intake) new ∧
        ∀ before, service.recorded.handle r (s.recorded before) =
          ((service.handle r s).1, (service.handle r s).2.recorded (before ++ new)) by
    obtain ⟨new, hnew, hhandle⟩ := this
    have hcalls : service.calls r s = new := by
      rw [calls, hhandle]
      rfl
    exact hcalls ▸ ⟨hnew, hhandle⟩
  simp only [handle, Request.address?, Request.file?]
  cases Route.of? r.method r.path with
  | none => exact ⟨[], .refused none, fun before => by rw [List.append_nil]⟩
  | some route =>
    cases route with
    | health => exact ⟨[], .refused none, fun before => by rw [List.append_nil]⟩
    | logs => exact ⟨[], .refused none, fun before => by rw [List.append_nil]; rfl⟩
    | table route => exact ⟨[], .refused none, fun before => by rw [List.append_nil]; rfl⟩
    | collectEmail =>
      obtain ⟨new, hnew, hcalls⟩ :=
        service.partners.collectEmail_recorded service.setting.intake r.payload s.partners
      refine ⟨new, hnew, fun before => ?_⟩
      simp only [recorded, ServiceState.recorded, hcalls]
    | submitForm =>
      obtain ⟨new, hnew, hcalls⟩ :=
        service.partners.submitForm_recorded service.setting.intake r.payload s.partners
      refine ⟨new, hnew, fun before => ?_⟩
      simp only [recorded, ServiceState.recorded, hcalls]

/-! ## A run -/

/-- The calls that a service makes to answer each of some requests. -/
def trace : List Request → ServiceState σ → List (List Call)
  | [], _ => []
  | r :: requests, s => service.calls r s :: trace requests (service.handle r s).2

/-- The record of a run has the calls for its requests, in turn. -/
theorem run_recorded (requests : List Request) (s : ServiceState σ) (before : List Call) :
    service.recorded.run requests (s.recorded before) =
      ((service.run requests s).1,
        (service.run requests s).2.recorded (before ++ (service.trace requests s).flatten)) := by
  induction requests generalizing s before with
  | nil => simp only [run, trace, List.flatten_nil, List.append_nil]
  | cons r requests ih =>
    simp only [run, trace, (service.handle_recorded r s).2 before, ih, List.flatten_cons,
      List.append_assoc]

/-- In any run, whatever the partners answer, the calls for each request are those for
which it gives reason. -/
theorem run_warrants (requests : List Request) (s : ServiceState σ) :
    service.recorded.run requests (s.recorded []) =
        ((service.run requests s).1,
          (service.run requests s).2.recorded (service.trace requests s).flatten) ∧
      List.Forall₂ (Request.Warrants service.setting.intake) requests
        (service.trace requests s) := by
  refine ⟨service.run_recorded requests s [], ?_⟩
  induction requests generalizing s with
  | nil => exact .nil
  | cons r requests ih => exact .cons (service.handle_recorded r s).1.warrants (ih _)

end Service

end Datasheet
