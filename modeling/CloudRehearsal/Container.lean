import CloudRehearsal.Endpoint

/-!
The container in which the mock server runs, and what a program outside needs to know to find it.
-/
namespace CloudRehearsal

/-- A program that runs containers. -/
inductive ContainerRuntime where
  | docker
  | podman
  deriving DecidableEq, Repr

namespace ContainerRuntime

/-- The runtimes, in the order in which they are looked for. -/
def all : List ContainerRuntime := [.docker, .podman]

/-- The runtime that is used unless another is asked for. -/
def default : ContainerRuntime := .docker

/-- The command of a runtime. -/
def command : ContainerRuntime → String
  | .docker => "docker"
  | .podman => "podman"

end ContainerRuntime

/-- A container and the server in it. -/
structure Container where
  name : String
  image : String
  /-- The port of the server, the same inside and outside. -/
  port : UInt16
  /-- The path that answers with success once the server is ready. -/
  healthPath : String
  deriving DecidableEq, Repr

namespace Container

/-- The mock server. All its services share one port. -/
def mockServer : Container := ⟨"localmock-moto", "motoserver/moto:latest", 5000, "/moto-api/"⟩

/-- The arguments with which a runtime starts a container. -/
def runArguments (c : Container) : List String :=
  ["run", "--name", c.name, "-d", "-p", s!"{c.port}:{c.port}", c.image]

/-- Where the server in a container is reached. -/
def url (c : Container) : String := s!"http://localhost:{c.port}"

/-- Where the health of the server is asked for. -/
def healthUrl (c : Container) : String := c.url ++ c.healthPath

/-- The variables for a program that is run against a server. The mock accepts any credentials, but
there must be some. -/
def environment (url : String) : List (String × String) :=
  [("LOCALMOCK_ENDPOINT_URL", url), ("AWS_REGION", Endpoint.defaultRegion),
    ("AWS_ACCESS_KEY_ID", "test"), ("AWS_SECRET_ACCESS_KEY", "test")]

end Container

end CloudRehearsal
