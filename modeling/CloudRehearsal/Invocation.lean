import CloudRehearsal.CommandLine.Reading
import CloudRehearsal.Endpoint
import CloudRehearsal.Listing

/-!
What a command line asks for: where the mock server is, what to do there, and how to print it.

Every option may stand before or after the command. What the command line says counts before the
variables, and the variables before the defaults.
-/
namespace CloudRehearsal

open Text CommandLine

/-- Which samples to run. -/
inductive SampleTarget where
  | all
  | one (service : Service)
  deriving DecidableEq, Repr

/-- A target by its name, whatever the case of its letters. -/
def SampleTarget.ofName (s : String) : Except ConfigError SampleTarget :=
  if sameLetters "all" s then .ok .all else return .one (← Service.ofId s)

/-- What is done with the mock server. -/
inductive Command where
  | sample (target : SampleTarget)
  | check
  deriving DecidableEq, Repr

/-- A command line that has been understood. -/
structure Invocation where
  endpointUrl : String
  region : String
  /-- The longest wait for a response, in seconds. -/
  socketTimeout : Option Nat
  format : Listing.Format
  /-- Nothing is written beside the results and what goes wrong. -/
  quiet : Bool
  command : Command
  deriving DecidableEq, Repr

namespace Invocation

/-- What one argument says. -/
inductive Setting where
  | endpointUrl (url : String)
  | region (region : String)
  | socketTimeout (seconds : Nat)
  | format (format : Listing.Format)
  | quiet
  | command (command : Command)
  deriving DecidableEq, Repr

/-- The options, which every level has. -/
def options (env : Environment) : List (Argument Setting) :=
  [.option "endpoint-url" (Reader.text.map .endpointUrl) env.endpointUrl,
    .option "region" (Reader.text.map .region) env.region,
    .option "socket-timeout" (Reader.number.map .socketTimeout) none,
    .option "format" (Reader.choice [("json", .format .json), ("pretty", .format .pretty)]) none,
    .flag "quiet" .quiet]

/-- Reads the target of a sample. -/
def readTarget (s : String) : Except String Setting :=
  match SampleTarget.ofName s with
  | .ok target => .ok (.command (.sample target))
  | .error e => .error e.message

/-- The command that runs samples. -/
def sampleLevel (env : Environment) : Level Setting :=
  { name := "sample"
    path := "localmock sample"
    about := "Run a getting-started sample"
    meaning := []
    options := options env
    positional := some (.positional "target" (Reader.parsed readTarget))
    commands := [] }

/-- The command that runs the acceptance checks. -/
def checkLevel (env : Environment) : Level Setting :=
  { name := "check"
    path := "localmock check"
    about := "Run the acceptance checks"
    meaning := [.command .check]
    options := options env
    positional := none
    commands := [] }

/-- The program. -/
def program (env : Environment) : Level Setting :=
  { name := "localmock"
    path := "localmock"
    about := "AWS SDK samples and checks against a local mock endpoint"
    meaning := []
    options := options env
    positional := none
    commands := [sampleLevel env, checkLevel env] }

/-! ## From settings -/

namespace Setting

def endpointUrl? : Setting → Option String
  | endpointUrl u => some u
  | _ => none

def region? : Setting → Option String
  | region r => some r
  | _ => none

def socketTimeout? : Setting → Option Nat
  | socketTimeout n => some n
  | _ => none

def format? : Setting → Option Listing.Format
  | format f => some f
  | _ => none

def command? : Setting → Option Command
  | command c => some c
  | _ => none

end Setting

/-- What the settings come to, when a command is among them. Of several settings of a kind the first
counts. -/
def ofSettings? (settings : List Setting) : Option Invocation := do
  return {
    endpointUrl := (settings.findSome? (·.endpointUrl?)).getD Endpoint.defaultUrl
    region := (settings.findSome? (·.region?)).getD Endpoint.defaultRegion
    socketTimeout := settings.findSome? (·.socketTimeout?)
    format := (settings.findSome? (·.format?)).getD .default
    quiet := settings.contains .quiet
    command := ← settings.findSome? (·.command?) }

/-- What a command line asks for. -/
def read (env : Environment) (args : List RawText) : Except UsageError Invocation :=
  (program env).readAs ofSettings? args

/-- The endpoint that is asked for. -/
def endpoint (i : Invocation) : Endpoint :=
  let e := (Endpoint.onThisMachine.withUrl i.endpointUrl).withRegion i.region
  match i.socketTimeout with
  | some seconds => e.withSocketTimeout (.ofSeconds seconds)
  | none => e

end Invocation

end CloudRehearsal
