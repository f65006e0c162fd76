import CloudRehearsal.Client.Error
import CloudRehearsal.Exchange.Session

/-!
Calls: sessions that can fail with a client error, and the steps that the clients are built from.
-/
namespace CloudRehearsal

/-- A session that ends with a result or a client error. -/
abbrev Call := ExceptT ClientError Session

namespace Call

/-- A session as a call that cannot fail. -/
def ofSession {α : Type} (session : Session α) : Call α := ExceptT.lift session

/-- Notes an event. -/
def note (event : Log.Event) : Call Unit := ofSession (Session.note event)

/-- Sends a request; `explain` says what a failure means. -/
def send (request : Request) (explain : SendError → ClientError) : Call request.Output :=
  ExceptT.mk do
    match ← Session.send request with
    | .ok output => return .ok output
    | .error e => return .error (explain e)

/-- Sends a request whose failures mean nothing in particular. -/
def sendPlain (request : Request) : Call request.Output :=
  send request (ClientError.ofSend request.operation.name)

/-- The member of a response that must be there. -/
def required {α : Type} (field : String) : Option α → Call α
  | some a => pure a
  | none => throw (.missingField field)

/-- A check that needs no service. -/
def checked : Except ConfigError Unit → Call Unit
  | .ok _ => pure ()
  | .error e => throw (.config e)

end Call

end CloudRehearsal
