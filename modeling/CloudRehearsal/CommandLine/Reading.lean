import CloudRehearsal.CommandLine.Level

/-!
Reading a command line, an argument after the other.

An option without an equals sign waits for its value, and takes the next argument that is not an
option itself. What has been read of it counts only once the next argument shows that it is complete,
so of two faults the one further on can come first. A command is read to its end before the level that
it was given on is completed. The settings of all levels then stand in order of precedence: the inner
level before the outer, and the command line before the variables.
-/
namespace CloudRehearsal.CommandLine

open Text

variable {α : Type}

/-! ## The state of a level -/

/-- What has been read on a level. -/
structure State (α : Type) where
  /-- What the complete arguments said, by their names. -/
  given : List (String × α)
  /-- The last argument, which may still wait for its value. -/
  pending : Option (Argument α × Option RawText)
  /-- The unnamed argument has been seen. -/
  placed : Bool
  /-- Two hyphens have been seen: nothing after them is an option or a command. -/
  trailing : Bool

namespace State

/-- Nothing has been read. -/
def start : State α := ⟨[], none, false, false⟩

/-- The option that waits for its value. -/
def waiting? (s : State α) : Option (Argument α) :=
  match s.pending with
  | some (a, none) => some a
  | _ => none

/-- The argument has been given. -/
def has (s : State α) (a : Argument α) : Bool := s.given.any (·.1 == a.name)

/-- A flag is given. No argument may be given twice on a level. -/
def give (s : State α) (a : Argument α) (meaning : α) : Except UsageError (State α) :=
  if s.has a then .error (.repeated a.shown)
  else .ok { s with given := s.given ++ [(a.name, meaning)] }

/-- An argument is given with its value, which is read only if it is not given twice. -/
def giveValue (s : State α) (a : Argument α) (read : Reader α) (value : RawText) :
    Except UsageError (State α) :=
  if s.has a then .error (.repeated a.shown)
  else
    match read value with
    | .ok meaning => s.give a meaning
    | .error fault => .error (.ofValue a.shown value.lenient fault)

/-- Completes the last argument. -/
def settle (s : State α) : Except UsageError (State α) :=
  match s.pending with
  | none => .ok s
  | some (a, none) => .error (.valueMissing a.shown)
  | some (a, some value) =>
    match a.taking with
    | .value read => { s with pending := none }.giveValue a read value
    | .nothing meaning => { s with pending := none }.give a meaning

end State

/-! ## One argument -/

/-- The forms of an argument. -/
inductive Form where
  /-- Two hyphens alone. -/
  | hyphens
  /-- Two hyphens and a name, perhaps with a value after an equals sign. -/
  | long (name : RawText) (value : Option RawText)
  /-- One hyphen and at least one more character. -/
  | short (letters : RawText)
  | word

/-- The form of an argument. -/
def Form.of : RawText → Form
  | [.char '-', .char '-'] => .hyphens
  | .char '-' :: .char '-' :: rest =>
    let name := rest.takeWhile (· != .char '=')
    .long name ((rest.drop name.length).tail?)
  | .char '-' :: c :: rest => .short (c :: rest)
  | _ => .word

/-- What comes after an argument. -/
inductive Next (α : Type) where
  /-- The level goes on. -/
  | on (s : State α)
  /-- A command begins. -/
  | into (command : Level α)

namespace Level

/-- The error for an argument that has no place on a level. -/
def misplaced (l : Level α) (s : State α) (arg : RawText) : UsageError :=
  let isCommand := (l.command? arg).isSome || l.isHelp arg
  if l.commands.isEmpty || (s.trailing && isCommand) then .unknownArgument arg.lenient
  else .unknownCommand arg.lenient

/-- An argument that is neither an option nor a command. -/
def word (l : Level α) (s : State α) (arg : RawText) : Except UsageError (Next α) :=
  match l.positional with
  | some a =>
    if s.placed then .error (l.misplaced s arg)
    else return .on { ← s.settle with pending := some (a, some arg), placed := true }
  | none => .error (l.misplaced s arg)

/-- An option by its name. -/
def long (l : Level α) (s : State α) (name : RawText) (value : Option RawText) :
    Except UsageError (Next α) :=
  if name.text? = some "help" then
    match value with
    | some value => .error (.valueUnexpected value.lenient "--help")
    | none => do
      let _ ← s.settle
      throw .helpRequested
  else
    match name.text?.bind l.option? with
    | none => .error (.unknownArgument ("--" ++ name.lenient))
    | some a =>
      match a.taking, value with
      | .nothing _, some value => .error (.valueUnexpected value.lenient a.shown)
      | .nothing meaning, none => return .on (← (← s.settle).give a meaning)
      | .value read, some value => return .on (← (← s.settle).giveValue a read value)
      | .value _, none => return .on { ← s.settle with pending := some (a, none) }

/-- An option by its letter. Help is the only one. -/
def short (s : State α) : RawText → Except UsageError (Next α)
  | .char 'h' :: _ => do
    let _ ← s.settle
    throw .helpRequested
  | .char c :: _ => .error (.unknownArgument s!"-{c}")
  | letters => .error (.unknownArgument ("-" ++ letters.lenient))

/-- What help says about the command that the names lead to. -/
def help (l : Level α) : List RawText → UsageError
  | [] => .helpRequested
  | name :: rest =>
    match l.command? name with
    | some command => command.help rest
    | none =>
      if l.isHelp name then
        match rest with
        | [] => .helpRequested
        | other :: _ => .unknownCommand other.lenient
      else .unknownCommand name.lenient

/-- Reads one argument; help needs to know those that follow. -/
def step (l : Level α) (s : State α) (arg : RawText) (rest : List RawText) :
    Except UsageError (Next α) :=
  if s.trailing then l.word s arg
  else if s.waiting?.isNone && l.isHelp arg then .error (l.help rest)
  else
    match s.waiting?, l.command? arg with
    | none, some command => .ok (.into command)
    | waiting, _ =>
      match Form.of arg with
      | .hyphens => .ok (.on { s with trailing := true })
      | .long name value => l.long s name value
      | .short letters => short s letters
      | .word =>
        match waiting with
        | some a => .ok (.on { s with pending := some (a, some arg) })
        | none => l.word s arg

end Level

/-! ## A whole level -/

/-- The settings of a level and of those below it. -/
structure Reading (α : Type) where
  /-- From the command line, the inner level first. -/
  given : List α
  /-- From the variables. -/
  outside : List α

/-- The settings in order of precedence. -/
def Reading.settings (r : Reading α) : List α := r.given ++ r.outside

namespace Level

/-- What the variables say about the options that were not given. -/
def fromVariables (l : Level α) (s : State α) : Except UsageError (List α) :=
  l.options.filterMapM fun a =>
    match a.taking, a.fallback with
    | .value read, some value =>
      if s.has a then return none
      else
        match read value with
        | .ok meaning => return some meaning
        | .error fault => throw (.ofValue a.shown value.lenient fault)
    | _, _ => return none

/-- A level with commands needs one, and an unnamed argument must be there. -/
def checkComplete (l : Level α) (s : State α) (outside : List α) (command : Bool) :
    Except UsageError Unit :=
  if !l.commands.isEmpty && !command then
    if s.given.isEmpty && outside.isEmpty then .error (.helpInstead l.about)
    else .error (.missingCommand l.path)
  else
    match l.positional with
    | some a => if s.has a then .ok () else .error (.missingArgument a.shown)
    | none => .ok ()

/-- Completes a level, with what was read of its command. -/
def finish (l : Level α) (s : State α) (command : Option (Reading α)) :
    Except UsageError (Reading α) := do
  let s ← s.settle
  let outside ← l.fromVariables s
  l.checkComplete s outside command.isSome
  let inner := command.getD ⟨[], []⟩
  return ⟨inner.given ++ l.meaning ++ s.given.map (·.2), inner.outside ++ outside⟩

/-- Reads the arguments that are left on a level. -/
def readFrom (l : Level α) (s : State α) : List RawText → Except UsageError (Reading α)
  | [] => l.finish s none
  | arg :: rest => do
    match ← l.step s arg rest with
    | .on s => l.readFrom s rest
    | .into command => l.finish s (some (← command.readFrom .start rest))

/-- Reads a command line. -/
def read (l : Level α) (args : List RawText) : Except UsageError (List α) :=
  return (← l.readFrom .start args).settings

/-- Reads a command line for what its settings come to; without a command they come to nothing. -/
def readAs {β : Type} (l : Level α) (ofSettings? : List α → Option β) (args : List RawText) :
    Except UsageError β := do
  match ofSettings? (← l.read args) with
  | some meant => return meant
  | none => throw (.missingCommand l.path)

theorem ofSettings?_of_readAs {β : Type} {l : Level α} {ofSettings? : List α → Option β}
    {args : List RawText} {settings : List α} {meant : β} (hs : l.read args = .ok settings)
    (h : l.readAs ofSettings? args = .ok meant) : ofSettings? settings = some meant := by
  unfold readAs at h
  rw [hs] at h
  cases ho : ofSettings? settings with
  | none =>
    simp only [bind, Except.bind, ho] at h
    cases h
  | some found =>
    simp only [bind, Except.bind, ho] at h
    cases h
    rfl

end Level

end CloudRehearsal.CommandLine
