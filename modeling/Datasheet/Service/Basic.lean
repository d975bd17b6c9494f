import Datasheet.Service.Submission
import Datasheet.Service.Tables

/-!
# The service

A service answers requests in turn (`Service.handle`, `Service.run`). What it
keeps from one to the next is its log and the state of its partners.
-/

namespace Datasheet

structure Service (σ : Type) where
  setting : Setting
  partners : Partners σ

/-- What a service keeps. -/
structure ServiceState (σ : Type) where
  log : Log
  partners : σ

namespace Service

variable {σ : Type}

/-- The answer to a request, and what is kept after it. -/
def handle (service : Service σ) (r : Request) (s : ServiceState σ) :
    Response × ServiceState σ :=
  match Route.of? r.method r.path with
  | none => (.notFound, s)
  | some .health => (.ok (.object [("status", .text "ok")]), s)
  | some .logs => (⟨200, .log s.log.entries⟩, s)
  | some (.table route) =>
    let outcome := route.outcome service.setting r.payload
    (outcome.response, { s with log := s.log.record outcome.entry })
  | some .collectEmail =>
    let (response, kept) :=
      service.partners.collectEmail service.setting.intake r.payload s.partners
    (response, { s with partners := kept })
  | some .submitForm =>
    let ((entry, response), kept) :=
      service.partners.submitForm service.setting.intake r.payload s.partners
    (response, ⟨s.log.record entry, kept⟩)

/-- The answers to some requests, and what is kept after them. -/
def run (service : Service σ) : List Request → ServiceState σ → List Response × ServiceState σ
  | [], s => ([], s)
  | r :: rs, s =>
    let (response, s) := service.handle r s
    let (responses, s) := service.run rs s
    (response :: responses, s)

end Service

end Datasheet
