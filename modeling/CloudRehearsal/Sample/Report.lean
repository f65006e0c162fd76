import CloudRehearsal.Client.Call
import CloudRehearsal.Json.Value
import CloudRehearsal.Service

/-!
What a sample has done, a step at a time. A step is noted as it is added to the report, so the log
and the report tell the same story.
-/
namespace CloudRehearsal

/-- One completed step of a sample. -/
structure Step where
  action : String
  detail : String
  deriving DecidableEq, Repr

/-- The steps of a sample, in order. -/
structure SampleReport where
  service : Service
  steps : List Step
  deriving DecidableEq, Repr

namespace SampleReport

/-- A report without steps. -/
def empty (service : Service) : SampleReport := ⟨service, []⟩

/-- The report with one more step. -/
def add (r : SampleReport) (action detail : String) : SampleReport :=
  { r with steps := r.steps ++ [⟨action, detail⟩] }

/-- Adds a step and notes it. -/
def step (r : SampleReport) (action detail : String) : Call SampleReport := do
  Call.note ⟨.info, "localmock::samples", detail,
    [.plain "service" r.service.id, .plain "action" action]⟩
  return r.add action detail

/-- A report as JSON. -/
def toJson (r : SampleReport) : Json :=
  .record [("service", r.service.toJson),
    ("steps", .list (r.steps.map fun s =>
      .record [("action", .text s.action), ("detail", .text s.detail)]))]

end SampleReport

end CloudRehearsal
