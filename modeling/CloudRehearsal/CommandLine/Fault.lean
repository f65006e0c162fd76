import CloudRehearsal.Text.Terminal

/-!
What can be wrong with a command line. `UsageError.summary` is the first line that is written about
it; what follows that line in a terminal is advice.

Arguments may hold anything, so the line shows of them what a terminal would show.
-/
namespace CloudRehearsal.CommandLine

open Text

/-- Why the value of an argument is refused. -/
inductive ValueFault where
  /-- It holds bytes that spell no character. -/
  | notText
  /-- It is empty where one of several names is expected. -/
  | empty
  /-- It is none of the names that are expected. -/
  | notListed
  | refused (reason : String)
  deriving DecidableEq, Repr

/-- Why a command line is not carried out. Arguments are given as they are shown in messages. -/
inductive UsageError where
  /-- Help was asked for. -/
  | helpRequested
  /-- Nothing was asked for, so help is given. -/
  | helpInstead (about : String)
  | notText
  | unknownArgument (argument : String)
  | unknownCommand (name : String)
  | missingCommand (path : String)
  | missingArgument (argument : String)
  | valueMissing (argument : String)
  | valueNotListed (value argument : String)
  | valueRefused (value argument reason : String)
  /-- A flag was given a value. -/
  | valueUnexpected (value argument : String)
  | repeated (argument : String)
  deriving DecidableEq, Repr

namespace UsageError

/-- A refused value of an argument. -/
def ofValue (argument value : String) : ValueFault → UsageError
  | .notText => .notText
  | .empty => .valueMissing argument
  | .notListed => .valueNotListed value argument
  | .refused reason => .valueRefused value argument reason

/-- What is written about the error, in parts: from one part to the next the colour changes. The
parts after the first line are given only where a part of the line runs into them. -/
def parts : UsageError → List String
  | helpRequested => []
  | helpInstead about => [about]
  | notText => ["error:", " invalid UTF-8 was detected in one or more arguments"]
  | unknownArgument argument => ["error:", " unexpected argument '", argument, "' found"]
  | unknownCommand name => ["error:", " unrecognized subcommand '", name, "'"]
  | missingCommand path =>
    ["error:", " '", path, "' requires a subcommand but one was not provided"]
  | missingArgument _ => ["error:", " the following required arguments were not provided:"]
  | valueMissing argument =>
    ["error:", " a value is required for '", argument, "' but none was supplied"]
  | valueNotListed value argument => ["error:", " invalid value '", value, "' for '", argument, "'"]
  | valueRefused value argument reason =>
    ["error:", " invalid value '", value, "' for '", argument,
      s!"': {reason}\n\nFor more information, try '", "--help", "'."]
  | valueUnexpected value argument =>
    ["error:", " unexpected value '", value, "' for '", argument,
      "' found; no more were expected"]
  | repeated argument =>
    ["error:", " the argument '", argument, "' cannot be used multiple times"]

/-- The characters before the first line break. -/
def firstLine (cs : List Char) : List Char :=
  let line := cs.takeWhile (· != '\n')
  if line.length < cs.length && line.getLast? == some '\r' then line.dropLast else line

/-- The first line about the error. A change of colour ends whatever control sequence the part before
it has begun, so each part is shown by itself. -/
def summary (e : UsageError) : String :=
  String.ofList (firstLine (e.parts.flatMap fun part => (Terminal.shown part).toList))

end UsageError

end CloudRehearsal.CommandLine
