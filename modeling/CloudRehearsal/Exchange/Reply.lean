import CloudRehearsal.Exchange.Request
import CloudRehearsal.Text.Quoted

/-!
What can come back for a request: a successful response, an error that the service reports, or
nothing that could be read. Which errors arrive as exceptions, and in which words an error shows itself,
is for those to say who answer: a `Fault` holds whatever they hand over. `LostCall.report` says how a
request without a readable response is reported.
-/
namespace CloudRehearsal

open Text

/-! ## Errors of a service -/

/-- An error of a type of its own. -/
structure ServiceException where
  name : String
  message : Option String
  /-- The text of the exception by itself. -/
  display : String
  deriving DecidableEq, Repr

/-- An error of a service. -/
structure Fault where
  /-- The exception as which the error arrives. An error that is not modeled arrives as none. -/
  exception : Option ServiceException
  code : Option String
  message : Option String
  /-- The text of the error by itself. -/
  display : String
  deriving DecidableEq, Repr

namespace Fault

/-- The error arrives as the exception of that name. -/
def Is (name : String) (fault : Fault) : Prop :=
  ∃ x, fault.exception = some x ∧ x.name = name

/-- It does, and the exception holds these words. -/
def Says (name words : String) (fault : Fault) : Prop :=
  ∃ x, fault.exception = some x ∧ x.name = name ∧ x.message = some words

variable {name words : String} {fault : Fault} {x : ServiceException}

theorem says_iff (h : fault.exception = some x) :
    fault.Says name words ↔ x.name = name ∧ x.message = some words := by
  simp [Says, h]

theorem Says.is (h : fault.Says name words) : fault.Is name :=
  let ⟨x, hx, hn, _⟩ := h
  ⟨x, hx, hn⟩

end Fault

/-! ## Requests without a response -/

/-- How a request came to have no response that could be read. -/
inductive LostKind where
  /-- The request could not be built. -/
  | construction
  /-- The call took too long. -/
  | timeout
  /-- The response could not be read. -/
  | response
  /-- The connection took too long. -/
  | connectTimeout
  /-- The connection failed. -/
  | connectIo
  /-- The connection was refused for a reason of the caller's. -/
  | connectUser
  | connectOther
  deriving DecidableEq, Repr

/-- A request that has no response, and the cause in words. -/
structure LostCall where
  kind : LostKind
  cause : String
  deriving DecidableEq, Repr

namespace LostCall

/-- The text of a failed connection and its details, by the name of its kind in either. -/
def connection (cause shown detailed : String) : String :=
  let inner := "ConnectorError \x7b kind: " ++ detailed ++ ", source: " ++ quoted cause
    ++ ", connection: Unknown \x7d"
  "dispatch failure: " ++ shown ++ ": " ++ cause
    ++ " (DispatchFailure(DispatchFailure \x7b source: " ++ inner ++ " \x7d))"

/-- The report: what happened and why in words, and the details once more. -/
def report (l : LostCall) : String :=
  let detailed (name rest : String) : String :=
    name ++ "(" ++ name ++ " \x7b source: " ++ quoted l.cause ++ rest ++ " \x7d)"
  match l.kind with
  | .construction =>
    s!"failed to construct request: {l.cause} (" ++ detailed "ConstructionFailure" "" ++ ")"
  | .timeout => s!"request has timed out: {l.cause} (" ++ detailed "TimeoutError" "" ++ ")"
  | .response => s!"response error: {l.cause} (" ++ detailed "ResponseError" ", raw: ()" ++ ")"
  | .connectTimeout => connection l.cause "timeout" "Timeout"
  | .connectIo => connection l.cause "io error" "Io"
  | .connectUser => connection l.cause "user error" "User"
  | .connectOther => connection l.cause "other" "Other(None)"

end LostCall

/-! ## Replies -/

/-- Why a request has no successful response. -/
inductive SendError where
  | service (fault : Fault)
  | lost (call : LostCall)
  deriving DecidableEq, Repr

namespace SendError

/-- The exception as which an error of a service has arrived, if it is one of these. -/
def exceptionIn? (names : List String) : SendError → Option ServiceException
  | service fault => fault.exception.filter fun x => names.contains x.name
  | lost _ => none

variable {names : List String} {x : ServiceException} {fault : Fault}

theorem exceptionIn?_service_eq_some_iff :
    (service fault).exceptionIn? names = some x ↔ fault.exception = some x ∧ x.name ∈ names := by
  rw [exceptionIn?, Option.filter_eq_some_iff, List.contains_iff_mem]

theorem exceptionIn?_service_eq_none_iff :
    (service fault).exceptionIn? names = none ↔ ∀ name ∈ names, ¬ fault.Is name := by
  rw [Option.eq_none_iff_forall_ne_some]
  constructor
  · intro h name hn ⟨x, hx, he⟩
    exact h x (exceptionIn?_service_eq_some_iff.2 ⟨hx, he ▸ hn⟩)
  · intro h x hx
    obtain ⟨hx, hn⟩ := exceptionIn?_service_eq_some_iff.1 hx
    exact h x.name hn ⟨x, hx, rfl⟩

end SendError

/-- What comes back for a request. -/
inductive Reply (α : Type) where
  | output (a : α)
  | error (fault : Fault)
  | lost (call : LostCall)
  deriving Repr

/-- The output of a reply, or why there is none. -/
def Reply.result {α : Type} : Reply α → Except SendError α
  | .output a => .ok a
  | .error fault => .error (.service fault)
  | .lost call => .error (.lost call)

end CloudRehearsal
