/-!
Text as a terminal shows it. Between the characters to be shown a terminal takes control sequences,
which set colours, titles and the like; an escape character starts each.

`shown` leaves out the sequences, also those that are broken off, and every control character that
is not white space. White space inside a sequence breaks the sequence off.
-/
namespace CloudRehearsal.Text.Terminal

/-- What the characters so far have begun. -/
inductive Mode where
  /-- Characters are shown. -/
  | ground
  /-- An escape character was the last. -/
  | escape
  /-- A sequence of an escape character, some punctuation and one character more. -/
  | short
  /-- A sequence that starts with a bracket and ends with a letter or the like. -/
  | control
  /-- A title, up to a bell. -/
  | title
  /-- The numbers in front of a text for the device. -/
  | header
  /-- A text that is not shown, up to a string terminator. -/
  | string
  deriving DecidableEq, Repr

/-- White space of ASCII, which is shown wherever it does not belong to a text that is not. -/
def isSpace (c : Char) : Bool := ['\t', '\n', '\x0c', '\r', ' '].contains c

/-- A control character of ASCII, the last one of all aside. -/
def isControl (c : Char) : Bool := c.toNat < 0x20

/-- The string terminator is among the bytes that spell the character. -/
def terminates (c : Char) : Bool := (String.utf8EncodeChar c).contains 0x9c

/-- What the character after an escape character begins. -/
def afterEscape (c : Char) : Mode :=
  if c < '0' then .short
  else if c = '[' then .control
  else if c = ']' then .title
  else if c = 'P' then .header
  else if c = 'X' ∨ c = '^' ∨ c = '_' then .string
  else .ground

/-- What a character begins inside a sequence, and whether it is shown. A character that the sequence
has no place for is left out. -/
def inside (mode : Mode) (c : Char) (next : Mode) : Mode × Bool :=
  if isControl c then if isSpace c then (.ground, true) else (mode, false)
  else if c.toNat < 0x7f then (next, false)
  else (mode, false)

/-- What a character begins, and whether it is shown. -/
def step (mode : Mode) (c : Char) : Mode × Bool :=
  if c = '\x1b' then (.escape, false)
  else if c = '\x18' ∨ c = '\x1a' then (.ground, false)
  else
    match mode with
    | .ground => (.ground, if isControl c then isSpace c else c.toNat ≠ 0x7f)
    | .escape => inside .escape c (afterEscape c)
    | .short => inside .short c (if c < '0' then .short else .ground)
    | .control => inside .control c (if c < '@' then .control else .ground)
    | .title => (if c = '\x07' then .ground else .title, false)
    | .header => (if '@' ≤ c ∧ c < '\x7f' then .string else .header, false)
    | .string => (if terminates c then .ground else .string, false)

/-- The characters that are shown of a text, when those before it have begun `mode`. -/
def shownFrom (mode : Mode) : List Char → List Char
  | [] => []
  | c :: cs =>
    let (next, isShown) := step mode c
    if isShown then c :: shownFrom next cs else shownFrom next cs

/-- The text that is shown. -/
def shown (s : String) : String := String.ofList (shownFrom .ground s.toList)

end CloudRehearsal.Text.Terminal
