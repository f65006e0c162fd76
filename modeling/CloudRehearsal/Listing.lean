import CloudRehearsal.Check.Outcome
import CloudRehearsal.Sample.Report
import CloudRehearsal.Text.Basic

/-!
How reports and outcomes are printed: as JSON on one line, or as a listing for people.
-/
namespace CloudRehearsal.Listing

open Text

/-- A form of output. -/
inductive Format where
  | json
  | pretty
  deriving DecidableEq, Repr

/-- The form that is used unless another is asked for. -/
def Format.default : Format := .pretty

/-! ## Reports -/

/-- A number with at least two places. -/
def twoPlaces (n : Nat) : String := if n < 10 then s!" {n}" else s!"{n}"

/-- A step on a line of its own, with its number. -/
def stepLine (number : Nat) (s : Step) : String :=
  s!"\n{twoPlaces number}. {s.action}: {s.detail}"

/-- A report for people: a heading, a rule, and the steps with their numbers. -/
def report (r : SampleReport) : String :=
  s!"{upperCase r.service.label} ({r.service.id})\n" ++ String.ofList (List.replicate 40 '-')
    ++ String.join (r.steps.zipIdx.map fun (s, i) => stepLine (i + 1) s)

/-- The reports for people, with an empty line between two. -/
def prettyReports (rs : List SampleReport) : String :=
  if rs.isEmpty then "No samples run." else "\n\n".intercalate (rs.map report)

/-- The reports in either form. -/
def reports (rs : List SampleReport) : Format → String
  | .json => (Json.list (rs.map SampleReport.toJson)).compact
  | .pretty => prettyReports rs

/-! ## Outcomes -/

/-- An outcome for people: its status and name, and the message below when there is one. -/
def outcomeLines (o : CheckOutcome) : String :=
  let status := if o.passed then "PASS" else "FAIL"
  let message := match o.message with
    | some message => s!"\n     {message}"
    | none => ""
  s!"{status} {o.name}{message}\n"

/-- How many of the checks have passed. -/
def passedCount (os : List CheckOutcome) : Nat := (os.filter (·.passed)).length

/-- The line that sums up. -/
def summary (os : List CheckOutcome) : String := s!"{passedCount os}/{os.length} checks passed"

/-- The outcomes for people. -/
def prettyOutcomes (os : List CheckOutcome) : String := String.join (os.map outcomeLines) ++ summary os

/-- The outcomes in either form. -/
def outcomes (os : List CheckOutcome) : Format → String
  | .json => (Json.list (os.map CheckOutcome.toJson)).compact
  | .pretty => prettyOutcomes os

end CloudRehearsal.Listing
