import CloudRehearsal.Text.Quoted

/-!
What can go wrong in a chore. An error has a sentence for people and a detailed form, which names its
kind and quotes what it holds.
-/
namespace CloudRehearsal

open Text

/-- An error of the operating system. -/
structure OsError where
  /-- The sentence for people. -/
  text : String
  /-- The detailed form. -/
  detail : String
  deriving DecidableEq, Repr

/-- There is no such program. -/
def OsError.notFound : OsError :=
  { text := "No such file or directory (os error 2)"
    detail := "Os \x7b code: 2, kind: NotFound, message: \"No such file or directory\" \x7d" }

/-- What went wrong in a chore. -/
inductive ChoreError where
  /-- There is no program that runs containers. -/
  | noRuntime (reason : String)
  | container (reason : String)
  /-- A server was not ready in time. -/
  | unhealthy (name : String) (seconds : Nat)
  | tests (reason : String)
  | os (error : OsError)
  deriving DecidableEq, Repr

namespace ChoreError

/-- The sentence that reports an error. -/
def display : ChoreError → String
  | noRuntime reason => s!"Docker is not available: {reason}"
  | container reason => s!"Container operation failed: {reason}"
  | unhealthy name seconds => s!"Container '{name}' is not healthy after {seconds}s"
  | tests reason => s!"Test execution failed: {reason}"
  | os error => s!"IO error: {error.text}"

/-- The detailed form. -/
def detail : ChoreError → String
  | noRuntime reason => s!"DockerNotAvailable({quoted reason})"
  | container reason => s!"ContainerFailed({quoted reason})"
  | unhealthy name seconds =>
    "ContainerNotHealthy \x7b name: " ++ quoted name ++ s!", timeout_secs: {seconds} \x7d"
  | tests reason => s!"TestFailed({quoted reason})"
  | os error => s!"Io({error.detail})"

end ChoreError

end CloudRehearsal
