import CloudRehearsal.Configuration
import CloudRehearsal.Text.Basic
import CloudRehearsal.Url.Basic

/-!
Where the mock server is, which region its clients are built for, and how long they wait for it.

`Endpoint.check` is the one gate in front of every client. Each `with…` function sets one field and
leaves the others, so of several settings of a field the last one holds.
-/
namespace CloudRehearsal

open Text

/-- The server and region that stand in for the real provider. -/
structure Endpoint where
  url : String
  region : String
  /-- The longest wait for a response; none leaves it to the client. -/
  socketTimeout : Option Duration
  deriving DecidableEq, Repr

namespace Endpoint

/-- Where the mock server listens unless told otherwise. -/
def defaultUrl : String := "http://localhost:5000"

/-- The region that clients are built for unless told otherwise. -/
def defaultRegion : String := "us-east-1"

/-- The wait that suits a slow network. -/
def slowNetworkTimeout : Duration := .ofSeconds 60

/-- The server on this machine, whatever the environment says. -/
def onThisMachine : Endpoint := ⟨defaultUrl, defaultRegion, none⟩

/-- The endpoint that the environment names. A variable that is no text counts as unset. -/
def ofEnvironment (env : Environment) : Endpoint :=
  { url := (env.endpointUrl.bind RawText.text?).getD defaultUrl
    region := (env.region.bind RawText.text?).getD defaultRegion
    socketTimeout := none }

/-! ## Settings -/

def withUrl (e : Endpoint) (url : String) : Endpoint := { e with url }

def withRegion (e : Endpoint) (region : String) : Endpoint := { e with region }

def withSocketTimeout (e : Endpoint) (timeout : Duration) : Endpoint :=
  { e with socketTimeout := some timeout }

/-- The endpoint over a slow network. -/
def slowNetwork (e : Endpoint) : Endpoint := e.withSocketTimeout slowNetworkTimeout

/-! ## Check and display -/

/-- The URL is one of the web and the region is not blank; the first fault in this order counts. -/
def check (e : Endpoint) : Except ConfigError Unit :=
  match Url.parse e.url with
  | .error fault => .error (.invalidEndpoint e.url fault.reason)
  | .ok url =>
    if url.scheme ≠ "http" ∧ url.scheme ≠ "https" then
      .error (.invalidEndpoint e.url "scheme must be http or https")
    else if blank e.region then .error .emptyRegion
    else .ok ()

/-- The line that says where requests go. -/
def display (e : Endpoint) : String :=
  match e.socketTimeout with
  | some timeout =>
    s!"Mock endpoint {e.url} (region: {e.region}, socket timeout: {timeout.seconds}s)"
  | none => s!"Mock endpoint {e.url} (region: {e.region})"

end Endpoint

end CloudRehearsal
