import CloudRehearsal.CommandLine.Fault
import CloudRehearsal.Text.Basic
import CloudRehearsal.Text.Raw

/-!
The values that arguments take: texts, numbers of 64 bits, names out of a list, and texts with a
meaning of their own.
-/
namespace CloudRehearsal.CommandLine

open Text

/-- What an argument makes of its value. -/
abbrev Reader (α : Type) := RawText → Except ValueFault α

namespace Reader

/-- Reads a value and goes on with what `f` makes of it. -/
def map {α β : Type} (f : α → β) (read : Reader α) : Reader β := fun raw => (read raw).map f

/-- Any text. -/
def text : Reader String := fun raw =>
  match raw.text? with
  | some s => .ok s
  | none => .error .notText

/-- One of several names, exactly. -/
def choice {α : Type} (choices : List (String × α)) : Reader α := fun raw =>
  match raw.text?.bind fun name => choices.lookup name with
  | some a => .ok a
  | none => .error (if raw.isEmpty then .empty else .notListed)

/-- A text that `parse` understands. -/
def parsed {α : Type} (parse : String → Except String α) : Reader α := fun raw => do
  match parse (← text raw) with
  | .ok a => return a
  | .error reason => throw (.refused reason)

/-! ## Numbers -/

/-- One digit more. The digit is looked at before the size of the number. -/
def addDigit (limit : Nat) (n : Nat) (c : Char) : Except String Nat :=
  match digit? 10 c with
  | none => .error "invalid digit found in string"
  | some d =>
    if n * 10 + d < limit then .ok (n * 10 + d)
    else .error "number too large to fit in target type"

/-- The number below `limit` that a text spells, with a plus sign in front or not. -/
def numberBelow (limit : Nat) (s : String) : Except String Nat :=
  match s.toList with
  | [] => .error "cannot parse integer from empty string"
  | ['+'] => .error "invalid digit found in string"
  | '+' :: digits => digits.foldlM (addDigit limit) 0
  | digits => digits.foldlM (addDigit limit) 0

/-- A number of 64 bits. -/
def number : Reader Nat := parsed (numberBelow (Nat.pow 2 64))

end Reader

end CloudRehearsal.CommandLine
