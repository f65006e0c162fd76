import CloudRehearsal.Chore.Containers

/-!
The chores: starting and stopping the mock server by hand, and the acceptance tests, which start it
for themselves if it does not run yet and stop it again if they have started it.
-/
namespace CloudRehearsal.Chore

open Container (mockServer)

/-- Starts the mock server and waits for it. A server that runs already is left alone, and the answer
is no. -/
def startMockServer (silent : Bool) (seconds : Nat) (runtime : ContainerRuntime) : Chore Bool := do
  if ← isRunning runtime mockServer.name then
    announce silent [.yellow "⚠️", .plain " moto container already running"]
    return false
  else
    announce silent [.blue "🐳", .plain " Starting moto container..."]
    start runtime mockServer
    announce silent [.blue "⏳", .plain s!" Waiting for container health (max {seconds}s)..."]
    awaitHealth mockServer (.ofSeconds seconds)
    announce silent [.green "✅", .plain s!" moto is ready at {mockServer.url}"]
    return true

/-- Stops the mock server. -/
def stopMockServer (silent : Bool) (runtime : ContainerRuntime) : Chore Unit := do
  announce silent [.blue "🐳", .plain " Stopping moto container..."]
  stop runtime mockServer.name
  announce silent [.green "✅", .plain " moto container stopped"]

/-! ## Acceptance tests -/

/-- How the acceptance tests are run. -/
structure IntegrationOptions where
  /-- No container is touched: a server is there already. -/
  noDocker : Bool
  /-- A container that was started is left running. -/
  keepContainers : Bool
  /-- The longest wait for the server, in seconds. -/
  healthTimeout : Nat
  deriving DecidableEq, Repr

/-- The command that runs the acceptance tests against a server. -/
def testCommand (url : String) : Launch :=
  { command := "cargo"
    arguments := ["test", "-p", "localmock", "--features", "mock-server"]
    environment := Container.environment url
    shown := true }

/-- Runs the acceptance tests; gives whether they pass. -/
def runTests (silent : Bool) (url : String) : Chore Bool := do
  announce silent [.blue "  →", .plain " Running against: ", .yellow url]
  let finished ← launched (← launch (testCommand url))
  if finished.success then
    announce silent [.green "✅", .plain " mock-server tests passed"]
    return true
  else
    say [.red "❌", .plain " mock-server tests failed"]
    return false

/-- The runtime for the mock server; none when no container is to be touched. -/
def chooseRuntime (silent : Bool) (o : IntegrationOptions) : Chore (Option ContainerRuntime) := do
  if o.noDocker then
    announce silent [.yellow "⚠️", .plain " Skipping moto container management (--no-docker)"]
    return none
  else return some (← detectRuntime)

/-- Starts the mock server; gives the runtime by which it is to be stopped again. -/
def acquire (silent : Bool) (o : IntegrationOptions) :
    Option ContainerRuntime → Chore (Option ContainerRuntime)
  | none => pure none
  | some runtime => do
    let started ← startMockServer silent o.healthTimeout runtime
    return if started then some runtime else none

/-- Stops the mock server if it is ours, unless it is to be kept. -/
def release (silent : Bool) (o : IntegrationOptions) : Option ContainerRuntime → Chore Unit
  | none => pure ()
  | some runtime =>
    if o.keepContainers then
      announce silent [.yellow "⚠️", .plain " Containers left running (--keep-containers)"]
    else stopMockServer silent runtime

/-- Says what the tests have come to; red tests are an error. -/
def conclude (passed : Bool) : Chore Unit := do
  say []
  if passed then say [.green "✅", .plain " ", .green "All integration tests passed!"]
  else
    say [.red "❌", .plain " ", .red "Some integration tests failed"]
    throw (.tests "The mock-server test suite failed")

/-- Runs the acceptance tests against the mock server. -/
def integration (silent : Bool) (o : IntegrationOptions) : Chore Unit := do
  announce silent [.blue "Integration Tests"]
  announce silent []
  let runtime ← chooseRuntime silent o
  let ours ← acquire silent o runtime
  let passed ← thenAlways (runTests silent mockServer.url) (release silent o ours)
  conclude passed

end CloudRehearsal.Chore
