import CloudRehearsal.Chore.Basic
import CloudRehearsal.Configuration
import CloudRehearsal.Container
import CloudRehearsal.Text.Basic

/-!
Containers as a chore handles them: finding a runtime, asking whether a container runs, starting and
stopping it, and waiting until the server in it is ready.

Stopping never fails: there may be nothing to stop.
-/
namespace CloudRehearsal.Chore

open Text

/-- Runs a runtime's command and keeps what it writes. -/
def runtimeCommand (runtime : ContainerRuntime) (arguments : List String) :
    Chore (Except OsError Finished) :=
  launch ⟨runtime.command, arguments, [], false⟩

/-- The first runtime that answers. -/
def detectAmong : List ContainerRuntime → Chore ContainerRuntime
  | [] => throw (.noRuntime "Neither docker nor podman found in PATH")
  | runtime :: others => do
    match ← runtimeCommand runtime ["--version"] with
    | .ok finished => if finished.success then return runtime else detectAmong others
    | .error _ => detectAmong others

/-- The runtime that is there. -/
def detectRuntime : Chore ContainerRuntime := detectAmong ContainerRuntime.all

/-- Whether the runtime lists a running container under a name: it does when it writes anything. -/
def isRunning (runtime : ContainerRuntime) (name : String) : Chore Bool := do
  let finished ← launched (← runtimeCommand runtime ["ps", "-q", "-f", s!"name={name}"])
  return !blank (Utf8.lenient finished.output)

/-- Stops a container and removes it. -/
def stop (runtime : ContainerRuntime) (name : String) : Chore Unit := do
  let _ ← runtimeCommand runtime ["stop", name]
  let _ ← runtimeCommand runtime ["rm", name]

/-- Starts a container in place of one of the same name that has stopped. -/
def start (runtime : ContainerRuntime) (c : Container) : Chore Unit := do
  stop runtime c.name
  let finished ← launched (← runtimeCommand runtime c.runArguments)
  if finished.success then pure ()
  else throw (.container s!"Failed to start container '{c.name}': {Utf8.lenient finished.errors}")

/-! ## Health -/

/-- The wait between two questions for health, in nanoseconds. -/
def pauseNanos : Nat := 500000000

/-- Asks for health until the answer is yes, as long as less than `timeout` nanoseconds have passed;
`elapsed` have passed already. -/
def healthyWithin (url : String) (timeout elapsed : Nat) : Program ChoreAct.Answer Bool :=
  if _h : elapsed < timeout then
    .ask (.probe url) fun (probe : Probe) =>
      if probe.healthy then .done true
      else
        .ask (.pause pauseNanos) fun (late : Nat) =>
          healthyWithin url timeout (elapsed + probe.took + pauseNanos + late)
  else .done false
termination_by timeout - elapsed
decreasing_by
  simp only [pauseNanos]
  omega

theorem healthyWithin_of_le {url : String} {timeout elapsed : Nat} (h : timeout ≤ elapsed) :
    healthyWithin url timeout elapsed = .done false := by
  rw [healthyWithin, dif_neg (Nat.not_lt.2 h)]

theorem healthyWithin_of_lt {url : String} {timeout elapsed : Nat} (h : elapsed < timeout) :
    healthyWithin url timeout elapsed =
      .ask (.probe url) fun (probe : Probe) =>
        if probe.healthy then .done true
        else
          .ask (.pause pauseNanos) fun (late : Nat) =>
            healthyWithin url timeout (elapsed + probe.took + pauseNanos + late) := by
  rw [healthyWithin, dif_pos h]

/-- Waits until the server in a container is ready. A failure gives the wait in whole seconds. -/
def awaitHealth (c : Container) (timeout : Duration) : Chore Unit := do
  let healthy ← ExceptT.lift (healthyWithin c.healthUrl timeout.toNanos 0)
  if healthy then pure () else throw (.unhealthy c.name timeout.seconds)

end CloudRehearsal.Chore
