import CloudRehearsal.Client.Call
import CloudRehearsal.Json.Value

/-!
Checks: sessions that pass or fail. A check fails with the error of a call, or because what it saw is
not what it expected.
-/
namespace CloudRehearsal

/-- Why a check failed. -/
inductive CheckError where
  | client (error : ClientError)
  | assertion (message : String)
  deriving DecidableEq, Repr

/-- The sentence that reports the failure. -/
def CheckError.display : CheckError → String
  | .client error => error.display
  | .assertion message => s!"Assertion failed: {message}"

/-- A session that can fail as a check does. -/
abbrev Checking := ExceptT CheckError Session

namespace Checking

/-- A call as part of a check: an error of the call is a failure of the check. -/
def ofCall {α : Type} (call : Call α) : Checking α :=
  ExceptT.mk do
    match ← call.run with
    | .ok a => return .ok a
    | .error e => return .error (.client e)

/-- Fails with the message unless the condition holds. -/
def ensure (condition : Bool) (message : String) : Checking Unit :=
  if condition then pure () else throw (.assertion message)

end Checking

/-- A check by its name. -/
structure Check where
  name : String
  body : Checking Unit

/-- What a check came to: passed, or failed with a message. -/
structure CheckOutcome where
  name : String
  passed : Bool
  message : Option String
  deriving DecidableEq, Repr

namespace CheckOutcome

/-- The outcome of a check. -/
def ofResult (name : String) : Except CheckError Unit → CheckOutcome
  | .ok _ => ⟨name, true, none⟩
  | .error e => ⟨name, false, some e.display⟩

/-- An outcome as JSON. -/
def toJson (o : CheckOutcome) : Json :=
  .record [("name", .text o.name), ("passed", .bool o.passed), ("message", .optional .text o.message)]

end CheckOutcome

/-- Runs a check to its outcome, and notes a failure. -/
def Check.outcome (c : Check) : Session CheckOutcome := do
  let result ← c.body.run
  match result with
  | .ok _ => pure ()
  | .error e =>
    Session.note ⟨.warn, "localmock::checks", "Check failed",
      [.quoted "check" c.name, .plain "error" e.display]⟩
  return .ofResult c.name result

end CloudRehearsal
