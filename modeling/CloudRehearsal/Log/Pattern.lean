import CloudRehearsal.Text.Basic
import CloudRehearsal.Unicode.Alphanumeric

/-!
Regular expressions, which a directive may ask the value of a field to match. No value is ever
matched here, so all that counts is whether a pattern is well formed.

`isPattern` reads a pattern character by character. No closing brace stands in a pattern, since one
ends the field that it belongs to: counted repetitions and whatever else needs a brace are faults.
Classes and boundaries that rest on data about all characters are faults too, as is ignoring case
among all characters.
-/
namespace CloudRehearsal.Log.Pattern

open Text Unicode

/-- The settings that change what is well formed. -/
structure Flags where
  ignoreCase : Bool
  /-- Patterns are about characters, not bytes. -/
  unicode : Bool
  deriving DecidableEq, Repr

/-- The settings after one has been set or unset by its letter. -/
def Flags.set? (f : Flags) (on : Bool) (letter : Char) : Option Flags :=
  if letter = 'i' then some { f with ignoreCase := on }
  else if letter = 'u' then some { f with unicode := on }
  else if ['m', 's', 'x', 'U', 'R'].contains letter then some f
  else none

/-- A place between brackets. -/
inductive Inner where
  /-- After the opening bracket. -/
  | opened
  /-- After the opening bracket and a sign that negates. -/
  | negated
  /-- After hyphens that stand in front. -/
  | hyphens
  | item
  /-- After a character that is an operator when it stands twice. -/
  | half (c : Char)
  /-- After a character, which may start a range. -/
  | start (code : Nat)
  /-- After a character and a hyphen. -/
  | range (code : Nat)
  /-- After a class, which starts no range. -/
  | set
  /-- After a class and a hyphen. -/
  | setHyphen
  deriving DecidableEq, Repr

/-- What an escaped character is part of. -/
inductive Role where
  | outside
  | item
  /-- The end of a range. -/
  | rangeEnd (code : Nat)
  deriving DecidableEq, Repr

/-- Where reading stands. -/
inductive Place where
  | outside
  /-- Between brackets. -/
  | inner (place : Inner)
  /-- After a backslash. -/
  | escape (role : Role)
  /-- In a number of so many more hexadecimal digits. -/
  | digits (role : Role) (missing value : Nat)
  /-- After an opening parenthesis. -/
  | group
  /-- After an opening parenthesis and a question mark. -/
  | settings (flags : Flags) (seen : List Char)
  /-- After the bracket that starts the name of a group; the letter in front of it may still be
  missing. -/
  | name (needsBracket : Bool) (letters : List Char)
  deriving DecidableEq, Repr

/-- A pattern as far as it has been read. -/
structure State where
  place : Place
  flags : Flags
  /-- The settings outside each group that is open. -/
  outer : List Flags
  /-- How many brackets are open. -/
  depth : Nat
  /-- Something stands in front that can be repeated. -/
  repeatable : Bool
  /-- A repetition was the last, so that a question mark changes its greed. -/
  repeated : Bool
  names : List (List Char)
  deriving DecidableEq, Repr

namespace State

/-- Before a pattern. -/
def start : State :=
  { place := .outside, flags := ⟨false, true⟩, outer := [], depth := 0, repeatable := false
    repeated := false, names := [] }

/-- After something that can be repeated. -/
def afterItem (st : State) : State :=
  { st with place := .outside, repeatable := true, repeated := false }

/-- After something that cannot. -/
def afterBreak (st : State) : State :=
  { st with place := .outside, repeatable := false, repeated := false }

/-- Inside a group that has just been opened. -/
def opened (st : State) (flags : Flags) : State :=
  { st.afterBreak with flags, outer := st.flags :: st.outer }

/-- At a place between brackets. -/
def within (st : State) (place : Inner) : State := { st with place := .inner place }

/-- A character stands for itself, wherever that is allowed. -/
def literal? (st : State) (role : Role) (code : Nat) : Option State :=
  if st.flags.ignoreCase && st.flags.unicode then none
  else
    match role with
    | .outside => some st.afterItem
    | .item =>
      if st.flags.unicode || code < 0x80 then some (st.within (.start code)) else none
    | .rangeEnd first =>
      if first ≤ code && (st.flags.unicode || code < 0x80) then some (st.within .item) else none

/-! ## Brackets -/

/-- A character at the place of an item. -/
def item? (st : State) (c : Char) : Option State :=
  if c = '[' then some { st.within .opened with depth := st.depth + 1 }
  else if c = ']' then
    if st.depth ≤ 1 then some { st.afterItem with depth := 0 }
    else some { st.within .item with depth := st.depth - 1 }
  else if c = '&' ∨ c = '~' ∨ c = '-' then some (st.within (.half c))
  else if c = '\\' then some { st with place := .escape .item }
  else st.literal? .item c.toNat

/-- A character after one that may start a range. -/
def afterStart? (st : State) (code : Nat) (c : Char) : Option State :=
  if c = '-' then some (st.within (.range code)) else st.item? c

/-- A character where hyphens may stand, and a closing bracket that closes nothing. -/
def front? (st : State) (c : Char) : Option State :=
  if c = '-' then some (st.within .hyphens)
  else if c = ']' then some (st.within .item)
  else st.item? c

/-- A character between brackets. -/
def inner? (st : State) (place : Inner) (c : Char) : Option State :=
  match place with
  | .opened =>
    if c = '^' then if st.flags.unicode then some (st.within .negated) else none else st.front? c
  | .negated => st.front? c
  | .hyphens => if c = '-' then some st else st.item? c
  | .item => st.item? c
  | .half d =>
    if c = d then some (st.within .item)
    else (st.literal? .item d.toNat).bind fun st => st.afterStart? d.toNat c
  | .start code => st.afterStart? code c
  | .range code =>
    if c = ']' then st.item? c
    else if c = '-' then some (st.within .item)
    else if c = '\\' then some { st with place := .escape (.rangeEnd code) }
    else st.literal? (.rangeEnd code) c.toNat
  | .set => if c = '-' then some (st.within .setHyphen) else st.item? c
  | .setHyphen =>
    if c = ']' then st.item? c else if c = '-' then some (st.within .item) else none

/-! ## Escapes -/

/-- A character after a backslash. -/
def escaped? (st : State) (role : Role) (c : Char) : Option State :=
  let digits (count : Nat) := some { st with place := .digits role count 0 }
  if c = 'x' then digits 2
  else if c = 'u' then digits 4
  else if c = 'U' then digits 8
  else if ['d', 's', 'w'].contains c then
    if st.flags.unicode then none
    else match role with
      | .outside => some st.afterItem
      | .item => some (st.within .set)
      | .rangeEnd _ => none
  else if ['A', 'z'].contains c then if role = .outside then some st.afterItem else none
  else if ['b', 'B', '<', '>'].contains c then
    if role = .outside && !st.flags.unicode then some st.afterItem else none
  else
    match ['a', 'f', 't', 'n', 'r', 'v'].idxOf? c with
    | some place => st.literal? role ([0x7, 0xc, 0x9, 0xa, 0xd, 0xb].getD place 0)
    | none =>
      if isLetter c || isDigit c || 0x80 ≤ c.toNat then none else st.literal? role c.toNat

/-- A character in a number. -/
def digit? (st : State) (role : Role) (missing value : Nat) (c : Char) : Option State := do
  let value := value * 16 + (← Text.digit? 16 c)
  if 1 < missing then return { st with place := .digits role (missing - 1) value }
  else if value.isValidChar && (st.flags.unicode || value < 0x80) then st.literal? role value
  else none

/-! ## Groups -/

/-- A character that the name of a group may hold. -/
def isNameChar (first : Bool) (c : Char) : Bool :=
  c == '_' || (isAlphanumeric c && !(first && isDigit c))
    || (!first && ['.', '[', ']'].contains c)

/-- A character of the name of a group; letters come in reverse. -/
def name? (st : State) (letters : List Char) (c : Char) : Option State :=
  if c = '>' then
    if letters.isEmpty || st.names.contains letters then none
    else some { st.opened st.flags with names := letters :: st.names }
  else if isNameChar letters.isEmpty c then some { st with place := .name false (c :: letters) }
  else none

/-- A character among settings. No letter and no hyphen stands twice, and no hyphen last. -/
def settings? (st : State) (flags : Flags) (seen : List Char) (c : Char) : Option State :=
  if c = ':' then if seen.head? = some '-' then none else some (st.opened flags)
  else if c = ')' then
    if seen.isEmpty || seen.head? = some '-' then none
    else some { st.afterBreak with flags }
  else if seen.contains c then none
  else if c = '-' then some { st with place := .settings flags ('-' :: seen) }
  else (flags.set? (!seen.contains '-') c).map fun flags =>
    { st with place := .settings flags (c :: seen) }

/-! ## Everything -/

/-- A character outside brackets. -/
def outside? (st : State) (c : Char) : Option State :=
  if c = '\\' then some { st with place := .escape .outside }
  else if c = '[' then some { st.within .opened with depth := 1 }
  else if c = '(' then some { st with place := .group }
  else if c = ')' then
    match st.outer with
    | [] => none
    | flags :: outer => some { st.afterItem with flags, outer }
  else if c = '|' then some st.afterBreak
  else if c = '?' && st.repeated then some st.afterItem
  else if ['?', '*', '+'].contains c then
    if st.repeatable then some { st with repeated := true } else none
  else if c = '\x7b' then none
  else if c = '.' then if st.flags.unicode then some st.afterItem else none
  else if c = '^' ∨ c = '$' then some st.afterItem
  else st.literal? .outside c.toNat

/-- Reads one character; none when the pattern is not well formed. -/
def step? (st : State) (c : Char) : Option State :=
  match st.place with
  | .outside => st.outside? c
  | .inner place => st.inner? place c
  | .escape role => st.escaped? role c
  | .digits role missing value => st.digit? role missing value c
  | .group =>
    if c = '?' then some { st with place := .settings st.flags [] }
    else (st.opened st.flags).outside? c
  | .settings flags seen =>
    if seen.isEmpty && c = 'P' then some { st with place := .name true [] }
    else if seen.isEmpty && c = '<' then some { st with place := .name false [] }
    else st.settings? flags seen c
  | .name true letters =>
    if c = '<' then some { st with place := .name false letters } else none
  | .name false letters => st.name? letters c

/-- A pattern may end here. -/
def isComplete (st : State) : Bool := st.place = .outside && st.outer.isEmpty

end State

/-- The text is a pattern. -/
def isPattern (cs : List Char) : Bool := (cs.foldlM State.step? State.start).any State.isComplete

end CloudRehearsal.Log.Pattern
