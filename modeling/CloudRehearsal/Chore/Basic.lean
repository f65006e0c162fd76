import CloudRehearsal.Chore.Error
import CloudRehearsal.Chore.Paint
import CloudRehearsal.Exchange.Program
import CloudRehearsal.Text.Utf8

/-!
Chores: programs that run other programs, ask a server for its health, wait, and print. A chore knows
nothing of its surroundings but what comes back.

`Chore.run` lets a chore meet a machine, which is anything with a state that answers what the chore
does, and keeps the account of it.
-/
namespace CloudRehearsal

open Text

/-- A program that is to be run. -/
structure Launch where
  command : String
  arguments : List String
  /-- Variables that the program finds besides those of the chore. -/
  environment : List (String × String)
  /-- What the program writes appears as part of the chore's own output. -/
  shown : Bool
  deriving DecidableEq, Repr

/-- What a program that was run has left. -/
structure Finished where
  success : Bool
  output : List UInt8
  errors : List UInt8
  deriving DecidableEq, Repr

/-- The answer to a question for health. -/
structure Probe where
  healthy : Bool
  /-- How long the answer took, in nanoseconds. -/
  took : Nat
  deriving DecidableEq, Repr

/-- One thing that a chore does. -/
inductive ChoreAct where
  | launch (l : Launch)
  | probe (url : String)
  /-- Waits for some nanoseconds. -/
  | pause (nanos : Nat)
  | say (line : List Span)

/-- What a chore learns from what it does. -/
@[reducible]
def ChoreAct.Answer : ChoreAct → Type
  | launch _ => Except OsError Finished
  | probe _ => Probe
  -- how much longer than asked for the wait was
  | pause _ => Nat
  | say _ => Unit

/-- A chore, which can fail. -/
abbrev Chore := ExceptT ChoreError (Program ChoreAct.Answer)

namespace Chore

/-- Runs a program to its end; an error means that there is no such program to run. -/
def launch (l : Launch) : Chore (Except OsError Finished) :=
  ExceptT.lift (Program.perform (ChoreAct.launch l))

/-- Prints a line. -/
def say (line : List Span) : Chore Unit := ExceptT.lift (Program.perform (ChoreAct.say line))

/-- Prints a line unless silence is wanted. -/
def announce (silent : Bool) (line : List Span) : Chore Unit := if silent then pure () else say line

/-- The result of running a program that must be there. -/
def launched (result : Except OsError Finished) : Chore Finished :=
  match result with
  | .ok finished => pure finished
  | .error e => throw (.os e)

end Chore

/-! ## Machines -/

/-- What answers the acts of a chore, from a state of its own. -/
structure Machine (σ : Type) where
  launch : Launch → σ → Except OsError Finished × σ
  probe : String → σ → Probe × σ
  /-- How much longer than asked for a wait is. -/
  pause : Nat → σ → Nat × σ

/-- Something on the chore's standard output. -/
inductive Printed where
  | line (spans : List Span)
  /-- Written by a program that was run. -/
  | bytes (bytes : List UInt8)
  deriving DecidableEq, Repr

/-- The text of what was printed. -/
def Printed.render (coloured : Bool) : Printed → String
  | line s => renderLine coloured s
  | bytes bs => Utf8.lenient bs

/-- The surroundings of a chore, and the account of what it did. -/
structure ChoreWorld (σ : Type) where
  machine : σ
  /-- The programs that were run or looked for in vain, in order. -/
  launches : List (Launch × Except OsError Finished)
  /-- The URLs whose health was asked for, in order. -/
  probes : List String
  printed : List Printed
  /-- What programs that were run wrote about errors. -/
  errors : List UInt8

namespace ChoreWorld

variable {σ : Type}

/-- Nothing has happened yet. -/
def start (machine : σ) : ChoreWorld σ := ⟨machine, [], [], [], []⟩

/-- Adds a program that was run to the account. -/
def addLaunch (w : ChoreWorld σ) (l : Launch) (result : Except OsError Finished) : ChoreWorld σ :=
  let w := { w with launches := w.launches ++ [(l, result)] }
  match result with
  | .ok finished =>
    if l.shown then
      { w with
        printed := w.printed ++ [.bytes finished.output]
        errors := w.errors ++ finished.errors }
    else w
  | .error _ => w

/-- Answers one act by the machine. -/
def respond (m : Machine σ) : (act : ChoreAct) → ChoreWorld σ → act.Answer × ChoreWorld σ
  | .launch l, w =>
    let (result, machine) := m.launch l w.machine
    (result, { w with machine }.addLaunch l result)
  | .probe url, w =>
    let (probe, machine) := m.probe url w.machine
    (probe, { w with machine, probes := w.probes ++ [url] })
  | .pause nanos, w =>
    let (late, machine) := m.pause nanos w.machine
    (late, { w with machine })
  | .say line, w => ((), { w with printed := w.printed ++ [.line line] })

end ChoreWorld

/-- Runs a chore. -/
def Chore.run {σ α : Type} (chore : Chore α) (m : Machine σ) (w : ChoreWorld σ) :
    Except ChoreError α × ChoreWorld σ :=
  Program.run (ChoreWorld.respond m) (ExceptT.run chore) w

end CloudRehearsal
