import CloudRehearsal.Chore.Integration
import CloudRehearsal.CommandLine.Reading

/-!
Which chore a command line asks for, and what is left when it is done.
-/
namespace CloudRehearsal

open Text CommandLine

/-- A chore by what it needs to know. -/
inductive Errand where
  | startServer (healthTimeout : Nat)
  | stopServer
  | integration (options : Chore.IntegrationOptions)
  deriving DecidableEq, Repr

/-- A command line for chores that has been understood. -/
structure ErrandInvocation where
  silent : Bool
  errand : Errand
  deriving DecidableEq, Repr

namespace ErrandInvocation

/-- What one argument or command says. -/
inductive Setting where
  | silent
  | noDocker
  | keepContainers
  | healthTimeout (seconds : Nat)
  | startServer
  | stopServer
  | integration
  deriving DecidableEq, Repr

/-- The flag that every level has. -/
def silentFlag : Argument Setting := .flag "silent" .silent

/-- The option for the longest wait. -/
def healthTimeoutOption : Argument Setting :=
  .option "health-timeout" (Reader.number.map .healthTimeout) none

/-- The longest wait unless another is asked for, in seconds. -/
def defaultHealthTimeout : Nat := 30

/-- The command that starts the mock server. -/
def startLevel : Level Setting :=
  { name := "start"
    path := "xtask moto start"
    about := "Start moto on port 5000 and wait until it answers"
    meaning := [.startServer]
    options := [silentFlag, healthTimeoutOption]
    positional := none
    commands := [] }

/-- The command that stops the mock server. -/
def stopLevel : Level Setting :=
  { name := "stop"
    path := "xtask moto stop"
    about := "Stop and remove the moto container"
    meaning := [.stopServer]
    options := [silentFlag]
    positional := none
    commands := [] }

/-- The commands for the mock server. -/
def serverLevel : Level Setting :=
  { name := "moto"
    path := "xtask moto"
    about := "Start or stop the local mock server container"
    meaning := []
    options := [silentFlag]
    positional := none
    commands := [startLevel, stopLevel] }

/-- The command that runs the acceptance tests. -/
def integrationLevel : Level Setting :=
  { name := "integration"
    path := "xtask integration"
    about := "Run the acceptance tests against a mock server"
    meaning := [.integration]
    options := [silentFlag, .flag "no-docker" .noDocker, .flag "keep-containers" .keepContainers,
      healthTimeoutOption]
    positional := none
    commands := [] }

/-- The program. -/
def program : Level Setting :=
  { name := "xtask"
    path := "xtask"
    about := "Development tasks for localmock"
    meaning := []
    options := [silentFlag]
    positional := none
    commands := [serverLevel, integrationLevel] }

/-! ## From settings -/

/-- The wait that a setting asks for. -/
def Setting.healthTimeout? : Setting → Option Nat
  | healthTimeout n => some n
  | _ => none

/-- What the settings come to; none without a command. -/
def ofSettings? (settings : List Setting) : Option ErrandInvocation :=
  let silent := settings.contains .silent
  let timeout := (settings.findSome? (·.healthTimeout?)).getD defaultHealthTimeout
  if settings.contains .startServer then some ⟨silent, .startServer timeout⟩
  else if settings.contains .stopServer then some ⟨silent, .stopServer⟩
  else if settings.contains .integration then
    some ⟨silent, .integration
      ⟨settings.contains .noDocker, settings.contains .keepContainers, timeout⟩⟩
  else none

/-- What a command line asks for. -/
def read (args : List RawText) : Except UsageError ErrandInvocation :=
  program.readAs ofSettings? args

/-! ## Carrying it out -/

/-- The chore that is asked for. -/
def chore (i : ErrandInvocation) : Chore Unit :=
  match i.errand with
  | .startServer timeout => do
    let runtime ← Chore.detectRuntime
    let _ ← Chore.startMockServer i.silent timeout runtime
  | .stopServer => do Chore.stopMockServer i.silent (← Chore.detectRuntime)
  | .integration options => Chore.integration i.silent options

/-- The exit status of a chore. -/
def status : Except ChoreError Unit → UInt8
  | .ok _ => 0
  | .error _ => 1

/-- The line about a failure. -/
def failureLine? : Except ChoreError Unit → Option String
  | .ok _ => none
  | .error e => some s!"Error: {e.detail}"

end ErrandInvocation

end CloudRehearsal
