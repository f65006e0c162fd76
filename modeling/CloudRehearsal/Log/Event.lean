import CloudRehearsal.Text.Quoted

/-!
Events that are logged: a level, the part of the program they come from, a message, and named
values. `Event.line` is the form in which an event is written.
-/
namespace CloudRehearsal.Log

open Text

/-- How much an event matters; the first matters most. -/
inductive Level where
  | error
  | warn
  | info
  | debug
  | trace
  deriving DecidableEq, Repr

namespace Level

/-- The name of a level in a written event. -/
def name : Level → String
  | .error => "ERROR"
  | .warn => "WARN"
  | .info => "INFO"
  | .debug => "DEBUG"
  | .trace => "TRACE"

/-- The more levels matter more, the smaller the rank. -/
def rank : Level → Nat
  | .error => 1
  | .warn => 2
  | .info => 3
  | .debug => 4
  | .trace => 5

end Level

/-- A named value of an event, as it is written. -/
structure Field where
  name : String
  text : String
  deriving DecidableEq, Repr

namespace Field

/-- A value that is written as it is. -/
def plain (name text : String) : Field := ⟨name, text⟩

/-- A text that is written in quotes. -/
def quoted (name text : String) : Field := ⟨name, Text.quoted text⟩

end Field

/-- Something that happened. -/
structure Event where
  level : Level
  /-- The part of the program that it happened in. -/
  target : String
  message : String
  fields : List Field
  deriving DecidableEq, Repr

/-- A control character of a message stands as a number, so a message cannot steer the terminal. -/
def shownChar (c : Char) : List Char :=
  let n := c.toNat
  if n = 0x1b ∨ n = 0x7 ∨ n = 0x8 ∨ n = 0xc ∨ n = 0x7f then ['\\', 'x'] ++ hexPadded 2 n
  else if 0x80 ≤ n ∧ n ≤ 0x9f then ['\\', 'u', '\x7b'] ++ hex n ++ ['\x7d']
  else [c]

/-- The line that reports an event. -/
def Event.line (e : Event) : String :=
  let message := String.ofList (e.message.toList.flatMap shownChar)
  let fields := String.join (e.fields.map fun f => s!" {f.name}={f.text}")
  s!"{e.level.name} {e.target}: {message}{fields}"

end CloudRehearsal.Log
