import CloudRehearsal.Check.Suite
import CloudRehearsal.Invocation
import CloudRehearsal.Log.Filter
import CloudRehearsal.Sample.Scripts

/-!
A run of the program: the session that a command line asks for, and what is left of it, which is two
texts and an exit status. The format and the wish for quiet decide about texts only.
-/
namespace CloudRehearsal

open Text

/-- What a session has come to. -/
inductive RunResult where
  | reports (reports : List SampleReport)
  | outcomes (outcomes : List CheckOutcome)
  /-- A failure, and what was being done. -/
  | failed (doing : Option String) (error : ClientError)
  deriving DecidableEq, Repr

namespace RunResult

/-- The samples or checks have succeeded. -/
def success : RunResult → Bool
  | reports _ => true
  | outcomes os => os.all (·.passed)
  | failed .. => false

/-- The results for standard output, when there are any. -/
def results (format : Listing.Format) : RunResult → Option String
  | reports rs => some (Listing.reports rs format)
  | outcomes os => some (Listing.outcomes os format)
  | failed .. => none

/-- The line about a failure: what was being done, the error, and the errors that it wraps. -/
def failureLine : RunResult → Option String
  | failed doing error =>
    some ("Error: " ++ ": ".intercalate (doing.toList ++ error.display :: error.sources))
  | _ => none

end RunResult

namespace Run

/-- Runs the samples that a target names. -/
def samples (clients : Clients) : SampleTarget → Session RunResult
  | .all => do
    match ← (Sample.runAll clients).run with
    | .ok reports => return .reports reports
    | .error e => return .failed none e
  | .one service => do
    match ← (Sample.run clients service).run with
    | .ok report => return .reports [report]
    | .error e => return .failed (some s!"{service.label} sample failed") e

/-- What a command does with the clients. -/
def command (clients : Clients) : Command → Session RunResult
  | .sample target => samples clients target
  | .check => return .outcomes (← Check.runAll clients)

/-- The session that a command line asks for. -/
def session (i : Invocation) : Session RunResult := do
  match ← (Clients.connect i.endpoint).run with
  | .ok clients => command clients i.command
  | .error e => return .failed (some "Failed to configure clients") e

/-! ## What is written -/

/-- What a program leaves behind. -/
structure Transcript where
  output : String
  errors : String
  status : UInt8
  deriving DecidableEq, Repr

/-- Lines of text. -/
def lines (ls : List String) : String := String.join (ls.map (· ++ "\n"))

/-- The events that are logged unless a variable asks for others. -/
def defaultFilter (quiet : Bool) : Log.Filter :=
  .ofTarget "localmock" (if quiet then .warn else .info)

/-- What is written about a session: on one side the results, on the other where requests go, the log,
and the failure. -/
def transcript (env : Environment) (i : Invocation) (result : RunResult) (events : List Log.Event) :
    Transcript :=
  let filter := Log.Filter.ofVariable env.logFilter (defaultFilter i.quiet)
  let target := if i.quiet then [] else [i.endpoint.display]
  let log := (events.filter filter.admits).map (·.line)
  { output := lines (result.results i.format).toList
    errors := lines (target ++ log ++ result.failureLine.toList)
    status := if result.success then 0 else 1 }

/-- What is left of a command line that is not carried out. To ask for help is no fault. -/
def refusal (e : CommandLine.UsageError) : Transcript :=
  if e = .helpRequested then ⟨"", "", 0⟩ else ⟨"", lines [e.summary], 2⟩

end Run

/-- Carries out a command line on a server. -/
def Invocation.run {σ : Type} (i : Invocation) (env : Environment) (server : Server σ)
    (ids : Nat → Uuid) (service : σ) : Run.Transcript × World σ :=
  let (result, world) := (Run.session i).run server ids (.start service)
  (Run.transcript env i result world.events, world)

end CloudRehearsal
