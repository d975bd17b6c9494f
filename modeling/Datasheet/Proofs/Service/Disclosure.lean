import Datasheet.Service.Basic
import Mathlib.Data.List.Forall2

/-!
# What clients learn of failures

Two services whose partners behave alike, but for the messages of failures that no
client has caused, are given the same requests. No answer repeats such a message
(`Failure.Alike.response_eq`, `Failure.Alike.formResponse_eq`), but the log keeps it,
in the entry of a submission that fails (`LogEntry.Alike`).

* `Service.handle_alike`: one request leads to answers and logs that are alike;
* `Service.run_alike`: so do any number of them. Only the answers that show the log
  can differ, and only in entries of failed submissions;
* `failing_disclosed`: there they do differ.
-/

namespace Datasheet

/-! ## Failures -/

/-- Failures that differ at most in a message that is not meant for the client. -/
structure Failure.Alike (f g : Failure) : Prop where
  kind_eq : f.kind = g.kind
  message_eq : f.isClient → f.message = g.message

namespace Failure.Alike

variable {f g : Failure}

theorem refl (f : Failure) : f.Alike f := ⟨rfl, fun _ => rfl⟩

/-- Failures of one kind are alike if no client causes that kind. -/
theorem of_kind {kind : FailureKind} (h : kind.isClient = false) (m n : String) :
    Failure.Alike ⟨kind, m⟩ ⟨kind, n⟩ :=
  ⟨rfl, fun hclient => absurd hclient (Bool.eq_false_iff.mp h)⟩

theorem isClient_eq (h : f.Alike g) : f.isClient = g.isClient :=
  congrArg FailureKind.isClient h.kind_eq

theorem status_eq (h : f.Alike g) : f.status = g.status := by
  rw [status, status, h.isClient_eq]

/-- A client is told the same of both. -/
theorem response_eq (h : f.Alike g) : f.response = g.response := by
  have hmessage : f.publicMessage = g.publicMessage := by
    rw [publicMessage, publicMessage, ← h.isClient_eq]
    split
    · exact h.message_eq ‹_›
    · rfl
  rw [response, response, h.status_eq, hmessage]

/-- And so is the sender of a form. -/
theorem formResponse_eq (h : f.Alike g) : f.formResponse = g.formResponse := by
  have hmessage : f.formMessage = g.formMessage := by
    rw [formMessage, formMessage, ← h.isClient_eq, h.kind_eq]
    split
    · exact h.message_eq ‹_›
    · rfl
  rw [formResponse, formResponse, h.status_eq, hmessage]

end Failure.Alike

/-! ## Partners -/

section Partners

variable {σ τ : Type} {R : σ → τ → Prop}

/-- Results that are the same or failures that are alike, with states that
correspond. -/
inductive AlikeResults {α : Type} (R : σ → τ → Prop) :
    Except Failure α × σ → Except Failure α × τ → Prop where
  | ok (a : α) {s : σ} {t : τ} (h : R s t) : AlikeResults R (.ok a, s) (.ok a, t)
  | error {f g : Failure} (hf : f.Alike g) {s : σ} {t : τ} (h : R s t) :
      AlikeResults R (.error f, s) (.error g, t)

/-- Partners that behave alike in states that correspond. -/
structure Partners.Alike (R : σ → τ → Prop) (p : Partners σ) (q : Partners τ) : Prop where
  upsert (address : String) {s : σ} {t : τ} :
    R s t → AlikeResults R (p.upsert address s) (q.upsert address t)
  forward (address : String) (file : Upload) {s : σ} {t : τ} :
    R s t → AlikeResults R (p.forward address file s) (q.forward address file t)

namespace Partners.Alike

variable {p : Partners σ} {q : Partners τ} {s : σ} {t : τ}

theorem captureEmail (h : p.Alike R q) (hst : R s t) (email : Option String) :
    AlikeResults R (p.captureEmail email s) (q.captureEmail email t) := by
  rw [Partners.captureEmail, Partners.captureEmail]
  cases Email.read email with
  | error f => exact .error (.refl f) hst
  | ok address => exact h.upsert address hst

theorem submit (h : p.Alike R q) (hst : R s t) (email : Option String) (file : Option Upload) :
    AlikeResults R (p.submit email file s) (q.submit email file t) := by
  rw [Partners.submit, Partners.submit]
  cases Email.read email with
  | error f => exact .error (.refl f) hst
  | ok address =>
    have hstored := h.upsert address hst
    dsimp only
    generalize p.upsert address s = x at *
    generalize q.upsert address t = y at *
    cases hstored with
    | error hf hnext => exact .error hf hnext
    | ok stored hnext =>
      cases file with
      | none => exact .error (.refl noFile) hnext
      | some file => exact h.forward address file hnext

/-- Whoever gives an address learns the same. -/
theorem collectEmail (h : p.Alike R q) (hst : R s t) (intake : Intake) (payload : Payload) :
    (p.collectEmail intake payload s).1 = (q.collectEmail intake payload t).1 ∧
      R (p.collectEmail intake payload s).2 (q.collectEmail intake payload t).2 := by
  rw [Partners.collectEmail, Partners.collectEmail]
  cases payload.textField? intake "email" with
  | none => exact ⟨rfl, hst⟩
  | some email =>
    have hcaptured := h.captureEmail hst email
    dsimp only
    generalize p.captureEmail email s = x at *
    generalize q.captureEmail email t = y at *
    cases hcaptured with
    | error hf hnext => exact ⟨hf.response_eq, hnext⟩
    | ok address hnext => exact ⟨rfl, hnext⟩

end Partners.Alike

/-! ## Logs -/

/-- The same entry, or the entries of submissions whose failures are alike. -/
inductive LogEntry.Alike : LogEntry → LogEntry → Prop where
  | same (e : LogEntry) : Alike e e
  | submission {f g : Failure} (h : f.Alike g) : Alike f.submissionEntry g.submissionEntry

/-- Logs of as many entries, each like its counterpart. -/
def Log.Alike (l m : Log) : Prop := List.Forall₂ LogEntry.Alike l.entries m.entries

theorem Log.Alike.refl (l : Log) : l.Alike l := List.forall₂_same.mpr fun e _ => .same e

theorem Log.Alike.record {l m : Log} (h : l.Alike m) {d e : Option LogEntry}
    (he : Option.Rel LogEntry.Alike d e) : (l.record d).Alike (m.record e) := by
  cases he with
  | none => exact h
  | some he =>
    have hlength : l.entries.length = m.entries.length := h.length_eq
    have hadded := List.rel_append h (List.Forall₂.cons he .nil)
    show List.Forall₂ LogEntry.Alike (List.drop (l.entries.length + 1 - capacity) _)
      (List.drop (m.entries.length + 1 - capacity) _)
    rw [hlength]
    exact List.forall₂_drop _ hadded

/-- The sender of a form learns the same, though the log may not get the same. -/
theorem Partners.Alike.submitForm {p : Partners σ} {q : Partners τ} {s : σ} {t : τ}
    (h : p.Alike R q) (hst : R s t) (intake : Intake) (payload : Payload) :
    Option.Rel LogEntry.Alike (p.submitForm intake payload s).1.1
        (q.submitForm intake payload t).1.1 ∧
      (p.submitForm intake payload s).1.2 = (q.submitForm intake payload t).1.2 ∧
      R (p.submitForm intake payload s).2 (q.submitForm intake payload t).2 := by
  rw [Partners.submitForm, Partners.submitForm]
  cases payload.form? intake with
  | error f => exact ⟨.none, rfl, hst⟩
  | ok form =>
    have hsubmitted := h.submit hst (form.field? "email")
      ((form.file? "file").filter (·.fileName ≠ ""))
    dsimp only
    generalize p.submit _ _ s = x at *
    generalize q.submit _ _ t = y at *
    cases hsubmitted with
    | error hf hnext => exact ⟨.some (.submission hf), hf.formResponse_eq, hnext⟩
    | ok reply hnext => exact ⟨.some (.same reply.entry), rfl, hnext⟩

/-! ## Answers -/

/-- The same answer, or answers that show logs which are alike. -/
inductive Response.Alike : Response → Response → Prop where
  | same (r : Response) : Alike r r
  | log {status : Nat} {l m : Log} (h : l.Alike m) :
      Alike ⟨status, .log l.entries⟩ ⟨status, .log m.entries⟩

theorem Response.Alike.of_eq {r r' : Response} (h : r = r') : r.Alike r' := h ▸ .same r

/-- What two services keep is alike. -/
structure ServiceState.Alike (R : σ → τ → Prop) (s : ServiceState σ) (t : ServiceState τ) :
    Prop where
  log : s.log.Alike t.log
  partners : R s.partners t.partners

namespace Service

variable {service : Service σ} {service' : Service τ}
  (hsetting : service.setting = service'.setting)
  (hpartners : service.partners.Alike R service'.partners)

include hsetting hpartners

/-- A request is answered the same unless it asks for the log. -/
theorem handle_alike (r : Request) {s : ServiceState σ} {t : ServiceState τ} (h : s.Alike R t) :
    (service.handle r s).1.Alike (service'.handle r t).1 ∧
      (Route.of? r.method r.path ≠ some .logs →
        (service.handle r s).1 = (service'.handle r t).1) ∧
      (service.handle r s).2.Alike R (service'.handle r t).2 := by
  rw [handle, handle, ← hsetting]
  cases hroute : Route.of? r.method r.path with
  | none => exact ⟨.same _, fun _ => rfl, h⟩
  | some route =>
    cases route with
    | health => exact ⟨.same _, fun _ => rfl, h⟩
    | logs => exact ⟨.log h.log, fun hne => absurd rfl hne, h⟩
    | table route =>
      refine ⟨.same _, fun _ => rfl, ⟨h.log.record ?_, h.partners⟩⟩
      cases (route.outcome service.setting r.payload).entry with
      | none => exact .none
      | some e => exact .some (.same e)
    | collectEmail =>
      obtain ⟨hresponse, hnext⟩ :=
        hpartners.collectEmail h.partners service.setting.intake r.payload
      exact ⟨.of_eq hresponse, fun _ => hresponse, ⟨h.log, hnext⟩⟩
    | submitForm =>
      obtain ⟨hentry, hresponse, hnext⟩ :=
        hpartners.submitForm h.partners service.setting.intake r.payload
      exact ⟨.of_eq hresponse, fun _ => hresponse, ⟨h.log.record hentry, hnext⟩⟩

/-- Whatever messages the failures of its partners carry, a service gives the same
answers to the same requests, but for answers that show the log: there the entries of
failed submissions may differ, and nothing else. -/
theorem run_alike (requests : List Request) {s : ServiceState σ} {t : ServiceState τ}
    (h : s.Alike R t) :
    List.Forall₂ Response.Alike (service.run requests s).1 (service'.run requests t).1 ∧
      ((∀ r ∈ requests, Route.of? r.method r.path ≠ some .logs) →
        (service.run requests s).1 = (service'.run requests t).1) := by
  induction requests generalizing s t with
  | nil => exact ⟨.nil, fun _ => rfl⟩
  | cons r requests ih =>
    obtain ⟨hfirst, hsame, hnext⟩ := handle_alike hsetting hpartners r h
    obtain ⟨hrest, hrestSame⟩ := ih hnext
    refine ⟨.cons hfirst hrest, fun hlogs => ?_⟩
    have hanswer := hsame (hlogs r List.mem_cons_self)
    have hanswers := hrestSame fun r' hr' => hlogs r' (List.mem_cons_of_mem _ hr')
    exact congrArg₂ List.cons hanswer hanswers

end Service

end Partners

/-! ## Partners that fail -/

/-- Partners of which every call fails with a message. -/
def failing (message : String) : Partners Unit where
  upsert _ _ := (.error ⟨.database, message⟩, ())
  forward _ _ _ := (.error ⟨.upstream, message⟩, ())

theorem failing_alike (m n : String) : (failing m).Alike (fun _ _ => True) (failing n) where
  upsert _ _ _ _ := .error (.of_kind rfl m n) trivial
  forward _ _ _ _ _ := .error (.of_kind rfl m n) trivial

def failingService (message : String) : Service Unit where
  setting := ⟨.terse 1000, 50, .western⟩
  partners := failing message

/-- A form with an address and a file. -/
def submission : Request where
  method := .post
  path := "/submit-form"
  payload := .form <| .ofParts "a part without a name"
    [⟨some "email", none, none, [Utf8.encode "jane@example.com".toList]⟩,
      ⟨some "file", some "data.csv", none, [Utf8.encode "a\n1\n".toList]⟩]

def logRequest : Request := ⟨.get, "/api/logs", .none⟩

def fresh : ServiceState Unit := ⟨.empty, ()⟩

theorem read_jane : Email.read (some "jane@example.com") = .ok "jane@example.com" := by
  have htrim : trim "jane@example.com".toList = "jane@example.com".toList := by decide +kernel
  have hmail : Email.isDeliverable "jane@example.com".toList = true := by decide +kernel
  have hplain : Email.isPlain "jane@example.com".toList = true := by decide +kernel
  simp only [Email.read, Option.getD_some, htrim, hmail, hplain]
  rfl

theorem submitForm_failing (message : String) :
    (failing message).submitForm (.terse 1000) submission.payload () =
      ((some ⟨"ERROR", "SubmitForm", "Database error: " ++ message⟩,
        ⟨500, .json (Failure.formAnswer "Database error")⟩), ()) := by
  have hform : submission.payload.form? (.terse 1000) = .ok ⟨[("email", "jane@example.com")],
      [("file", ⟨"data.csv", none, Utf8.encode "a\n1\n".toList⟩)]⟩ := by rfl
  have hfield : Form.field? ⟨[("email", "jane@example.com")],
      [("file", ⟨"data.csv", none, Utf8.encode "a\n1\n".toList⟩)]⟩ "email" =
        some "jane@example.com" := by rfl
  rw [Partners.submitForm, hform]
  dsimp only
  rw [hfield, Partners.submit, read_jane]
  rfl

/-- The sender is told that the store failed, and then anyone is told why. -/
theorem run_failingService (message : String) :
    ((failingService message).run [submission, logRequest] fresh).1 =
      [⟨500, .json (Failure.formAnswer "Database error")⟩,
        ⟨200, .log [⟨"ERROR", "SubmitForm", "Database error: " ++ message⟩]⟩] := by
  have hsubmission : Route.of? submission.method submission.path = some .submitForm := by
    decide +kernel
  have hlog : Route.of? logRequest.method logRequest.path = some .logs := by decide +kernel
  have hfirst : (failingService message).handle submission fresh =
      (⟨500, .json (Failure.formAnswer "Database error")⟩,
        ⟨.record .empty (some ⟨"ERROR", "SubmitForm", "Database error: " ++ message⟩), ()⟩) := by
    rw [Service.handle, hsubmission]
    dsimp only [failingService, fresh]
    rw [submitForm_failing]
  rw [Service.run.eq_def]
  dsimp only
  rw [hfirst, Service.run.eq_def]
  dsimp only
  rw [Service.handle, hlog]
  rfl

/-- A store that refuses and one that is too slow are told apart by the log only. -/
theorem run_failingService_alike :
    (failing "refused").Alike (fun _ _ => True) (failing "timed out") ∧
      ServiceState.Alike (fun _ _ => True) fresh fresh ∧
      List.Forall₂ Response.Alike
        ((failingService "refused").run [submission, logRequest] fresh).1
        ((failingService "timed out").run [submission, logRequest] fresh).1 ∧
      Route.of? submission.method submission.path ≠ some .logs ∧
      ((failingService "refused").run [submission] fresh).1 =
        ((failingService "timed out").run [submission] fresh).1 := by
  have hsetting : (failingService "refused").setting = (failingService "timed out").setting := rfl
  have hpartners := failing_alike "refused" "timed out"
  have hfresh : ServiceState.Alike (fun _ _ => True) fresh fresh := ⟨.refl _, trivial⟩
  have hroute : Route.of? submission.method submission.path ≠ some .logs := by decide +kernel
  refine ⟨hpartners, hfresh, ?_, hroute, ?_⟩
  · exact (Service.run_alike hsetting hpartners [submission, logRequest] hfresh).1
  · refine (Service.run_alike hsetting hpartners [submission] hfresh).2 fun r hr => ?_
    rwa [List.mem_singleton.mp hr]

/-- Partners that differ in the messages of failures alone, and a service that gives
different answers with each. -/
theorem failing_disclosed :
    (failing "refused").Alike (fun _ _ => True) (failing "timed out") ∧
      ((failingService "refused").run [submission, logRequest] fresh).1 ≠
        ((failingService "timed out").run [submission, logRequest] fresh).1 := by
  refine ⟨failing_alike _ _, fun hsame => ?_⟩
  rw [run_failingService, run_failingService] at hsame
  injection hsame with _ hlogs
  injection hlogs with hlog
  injection hlog with _ hcontent
  injection hcontent with hentries
  exact absurd hentries (by decide)

end Datasheet
