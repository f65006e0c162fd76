import CloudRehearsal.CommandLine.Value
import CloudRehearsal.Text.Basic

/-!
What a command line may hold. A level is a program or one of its commands: it has options, perhaps
one argument without a name, and perhaps commands, which are levels again. What is given on a level is
a list of settings of some type `α`; what an argument says is part of its description.
-/
namespace CloudRehearsal.CommandLine

open Text

/-- What an argument takes, and what it says. -/
inductive Taking (α : Type) where
  /-- A flag says the same whenever it is there. -/
  | nothing (meaning : α)
  | value (read : Reader α)

/-- An argument of a level. -/
structure Argument (α : Type) where
  name : String
  /-- How messages show it. -/
  shown : String
  taking : Taking α
  /-- The value that a variable gives to an option that is not on the command line. -/
  fallback : Option RawText

namespace Argument

variable {α : Type}

/-- The word that stands for the value of an argument. -/
def placeholder (name : String) : String :=
  String.ofList (name.toList.map fun c => if c = '-' then '_' else upper c)

/-- A flag. -/
def flag (name : String) (meaning : α) : Argument α := ⟨name, s!"--{name}", .nothing meaning, none⟩

/-- An option with a value. -/
def option (name : String) (read : Reader α) (fallback : Option RawText) : Argument α :=
  ⟨name, s!"--{name} <{placeholder name}>", .value read, fallback⟩

/-- An argument that stands without a name. -/
def positional (name : String) (read : Reader α) : Argument α :=
  ⟨name, s!"<{placeholder name}>", .value read, none⟩

end Argument

/-- A program or one of its commands. -/
structure Level (α : Type) where
  name : String
  /-- The name after those of the levels above. -/
  path : String
  about : String
  /-- What choosing this level says. -/
  meaning : List α
  options : List (Argument α)
  positional : Option (Argument α)
  commands : List (Level α)

namespace Level

variable {α : Type}

/-- The option of a name. -/
def option? (l : Level α) (name : String) : Option (Argument α) :=
  l.options.find? (·.name == name)

/-- The command of a name. -/
def command? (l : Level α) (arg : RawText) : Option (Level α) :=
  arg.text?.bind fun name => l.commands.find? (·.name == name)

/-- The argument asks for help, which every level with commands offers as one more command. -/
def isHelp (l : Level α) (arg : RawText) : Bool :=
  !l.commands.isEmpty && arg.text? == some "help"

end Level

end CloudRehearsal.CommandLine
