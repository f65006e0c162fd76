import CloudRehearsal.Run

/-!
The program itself. It reads its arguments and variables and writes what a run leaves behind. It has
no way of its own to reach a server, so every request is lost.
-/
namespace CloudRehearsal.Main

open Text

/-- The value of a variable. -/
def variableValue (name : String) : IO (Option RawText) :=
  return (← IO.getEnv name).map RawText.ofString

/-- Identifiers that follow a random one. -/
def freshIds : IO (Nat → Uuid) := do
  let start ← IO.rand 0 (Nat.pow 2 128 - 1)
  return fun n => BitVec.ofNat 128 (start + n * (Nat.pow 2 96 + 1))

/-- What carrying out a command line leaves behind. -/
def transcript (args : List String) : IO Run.Transcript := do
  let env ← Environment.lookUp variableValue
  match Invocation.read env (args.map RawText.ofString) with
  | .ok invocation => return (invocation.run env (Server.unreachable Unit) (← freshIds) ()).1
  | .error e => return Run.refusal e

end CloudRehearsal.Main

/-- Carries out the command line. -/
def main (args : List String) : IO UInt32 := do
  let left ← CloudRehearsal.Main.transcript args
  (← IO.getStdout).putStr left.output
  (← IO.getStderr).putStr left.errors
  return left.status.toUInt32
