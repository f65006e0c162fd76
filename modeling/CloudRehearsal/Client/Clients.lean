import CloudRehearsal.Client.Buckets
import CloudRehearsal.Endpoint
import CloudRehearsal.Service

/-!
The clients of one endpoint. There are none for an endpoint that fails its check, and what the clients
are set up with is the endpoint's own text, unchanged.
-/
namespace CloudRehearsal

/-- The clients of an endpoint that has passed its check. -/
structure Clients where
  endpoint : Endpoint
  accepted : endpoint.check = .ok ()

/-- What every request of a client goes by. -/
structure ClientSettings where
  endpointUrl : String
  region : String
  /-- How often a request is sent at most. -/
  maxAttempts : Nat
  /-- The longest wait for a response; none leaves it to the client. -/
  readTimeout : Option Duration
  deriving DecidableEq, Repr

/-- A client that has been chosen by its service. -/
inductive ServiceClient where
  | storage (buckets : Buckets)
  | tableStore
  | notification
  | email
  | directory

/-- The service that a client speaks to. -/
def ServiceClient.service : ServiceClient → Service
  | storage _ => .storage
  | tableStore => .tableStore
  | notification => .notification
  | email => .email
  | directory => .directory

namespace Clients

/-- The clients of an endpoint, or what is wrong with it. -/
def ofEndpoint (e : Endpoint) : Except ClientError Clients :=
  match h : e.check with
  | .ok () => .ok ⟨e, h⟩
  | .error fault => .error (.config fault)

/-- Sets up the clients of an endpoint, and notes it. -/
def connect (e : Endpoint) : Call Clients := do
  let clients ← ExceptT.mk (pure (ofEndpoint e))
  Call.note ⟨.debug, "localmock::factory", "Client factory ready", [.plain "target" e.display]⟩
  return clients

/-- What the requests go by. A request is never sent again. -/
def settings (c : Clients) : ClientSettings :=
  { endpointUrl := c.endpoint.url
    region := c.endpoint.region
    maxAttempts := 1
    readTimeout := c.endpoint.socketTimeout }

/-- The client for buckets, which are created in the endpoint's region. -/
def buckets (c : Clients) : Buckets := ⟨c.endpoint.region⟩

/-- The client of a service. -/
def client (c : Clients) : Service → ServiceClient
  | .storage => .storage c.buckets
  | .tableStore => .tableStore
  | .notification => .notification
  | .email => .email
  | .directory => .directory

end Clients

end CloudRehearsal
