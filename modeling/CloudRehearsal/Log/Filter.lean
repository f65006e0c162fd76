import CloudRehearsal.Log.Event
import CloudRehearsal.Log.Pattern
import CloudRehearsal.Text.Basic
import CloudRehearsal.Text.Raw
import CloudRehearsal.Unicode.Alphanumeric

/-!
Which events are logged. A filter is a list of directives separated by commas, each of which gives a
level to a part of the program: of the directives that an event falls under, the one with the longest
target decides.

A directive may also name a span, or a field and what its value must match. Nothing here happens
inside a span, and only the fields of spans are matched, so a directive that asks for either is about
no event.
-/
namespace CloudRehearsal.Log

open Text Unicode

/-- The least important level that passes; none lets nothing pass. -/
abbrev Threshold := Option Level

/-- An event of this level passes. -/
def Threshold.admits (t : Threshold) (level : Level) : Bool := t.any fun l => level.rank ≤ l.rank

/-- One rule of a filter. -/
structure Directive where
  /-- What the target of an event must start with. -/
  target : Option String
  /-- A field that an event must have. -/
  field : Option String
  /-- The rule is about what happens inside a span. -/
  spanOnly : Bool
  threshold : Threshold
  deriving DecidableEq, Repr

/-! ## Reading -/

/-- A number, with a plus sign in front or not. -/
def ordinal? (cs : List Char) : Option Nat :=
  let digits := match cs with
    | '+' :: rest => rest
    | cs => cs
  if digits.isEmpty then none else numeral? 10 digits

/-- A threshold by its number or by its name in any case; an empty name is that of errors. -/
def threshold? (cs : List Char) : Option Threshold :=
  match ordinal? cs with
  | some 0 => some none
  | some 1 => some (some .error)
  | some 2 => some (some .warn)
  | some 3 => some (some .info)
  | some 4 => some (some .debug)
  | some 5 => some (some .trace)
  | _ =>
    match lowerCase (String.ofList cs) with
    | "" | "error" => some (some .error)
    | "warn" => some (some .warn)
    | "info" => some (some .info)
    | "debug" => some (some .debug)
    | "trace" => some (some .trace)
    | "off" => some none
    | _ => none

/-- A character that a directive may start with, a bracket aside. -/
def startsDirective (c : Char) : Bool := isAlphanumeric c || ['-', ':', '_'].contains c

/-- What follows a target and its equals sign: a threshold, or nothing for all levels. -/
def thresholdAfter? (cs : List Char) : Option Threshold :=
  if cs.isEmpty then some (some .trace) else threshold? cs

/-- Whether digits stand in front of a text, and the text after them. -/
def digitsThen (cs : List Char) : Bool × List Char :=
  (!(cs.takeWhile isDigit).isEmpty, cs.dropWhile isDigit)

/-- The exponent of a number, or nothing. -/
def isExponent (cs : List Char) : Bool :=
  match cs with
  | [] => true
  | c :: rest =>
    (c = 'e' || c = 'E')
      && digitsThen (match rest with
        | '+' :: rest => rest
        | '-' :: rest => rest
        | rest => rest) == (true, [])

/-- A number without a sign, in decimal notation or one of the names of what is not finite. -/
def isUnsigned (cs : List Char) : Bool :=
  let (whole, rest) := digitsThen cs
  match rest with
  | '.' :: rest => let (fraction, rest) := digitsThen rest; (whole || fraction) && isExponent rest
  | rest =>
    (whole && isExponent rest)
      || ["inf", "infinity", "nan"].contains (lowerCase (String.ofList cs))

/-- What the value of a field may be asked to match: a pattern, or a number with a plus sign in
front, which is no pattern. -/
def isAsked (cs : List Char) : Bool :=
  match cs with
  | '+' :: rest => isUnsigned rest
  | cs => Pattern.isPattern cs

/-- What stands between the brackets of a directive. -/
structure Scope where
  /-- A span is named. -/
  spanned : Bool
  field : Option String
  /-- The value of the field must match something. -/
  asked : Bool
  deriving DecidableEq, Repr

/-- Reads a field, with what its value must match after an equals sign. What follows a second one does
not count. -/
def fieldScope? (spanned : Bool) (cs : List Char) : Option Scope :=
  match cutAt? (· == '=') cs with
  | none => if cs.isEmpty then none else some ⟨spanned, some (String.ofList cs), false⟩
  | some (name, rest) =>
    if isAsked (rest.takeWhile (· != '=')) then some ⟨spanned, some (String.ofList name), true⟩
    else none

/-- Reads what follows the opening bracket at `place` of a directive, up to the closing one: a span,
then a field in braces, in which brackets mean nothing. Gives the text after the bracket and the
place of that text. What the field is called is read off `cs` at its place. -/
def scope? (cs : List Char) (place : Nat) (rest : List Char) :
    Option (Scope × List Char × Nat) :=
  let span := rest.takeWhile fun c => c != ']' && c != '\x7b'
  match rest.drop span.length with
  | [] => none
  | c :: rest =>
    let place := place + span.length + 1
    if c = ']' then some (⟨true, none, false⟩, rest, place)
    else
      match cutAt? (· == '\x7d') rest with
      | some (field, ']' :: rest) =>
        (fieldScope? (!span.isEmpty) ((cs.drop place).take field.length)).map fun scope =>
          (scope, rest, place + field.length + 2)
      | _ => none

/-- Reads a directive. White space around it does not count in looking for its parts, but the parts
are then taken at the same places of the whole text. -/
def Directive.ofChars? (cs : List Char) : Option Directive :=
  let trimmed := ((cs.dropWhile isBlank).reverse.dropWhile isBlank).reverse
  match trimmed with
  | [] => none
  | c :: _ =>
    if c != '[' && !startsDirective c then none
    else
      let front := trimmed.takeWhile fun d => d != '=' && d != '['
      let named := String.ofList (cs.take front.length)
      match trimmed.drop front.length with
      | [] =>
        match threshold? cs with
        | some threshold => some ⟨none, none, false, threshold⟩
        | none => some ⟨some (String.ofList cs), none, false, some .trace⟩
      | '=' :: _ =>
        (thresholdAfter? (cs.drop (front.length + 1))).map fun threshold =>
          ⟨some named, none, false, threshold⟩
      | _ :: rest => do
        let target := if front.isEmpty then none else some named
        let (scope, after, place) ← scope? cs (front.length + 1) rest
        let about := Directive.mk target scope.field (scope.spanned || scope.asked)
        match after with
        | [] => return about (some .trace)
        | '=' :: _ => return about (← thresholdAfter? (cs.drop (place + 1)))
        | _ => none

/-! ## Filters -/

/-- The rules of a filter. -/
abbrev Filter := List Directive

namespace Filter

/-- The filter of one target. -/
def ofTarget (target : String) (level : Level) : Filter := [⟨some target, none, false, some level⟩]

/-- Reads a filter. A text without directives lets errors pass and nothing else. -/
def ofString? (s : String) : Option Filter := do
  let written := (pieces (· == ',') s.toList).filter (! ·.isEmpty)
  let directives ← written.mapM Directive.ofChars?
  return if directives.isEmpty then [⟨none, none, false, some .error⟩] else directives

/-- The filter that a variable asks for, or the given one when it is unset or cannot be read. -/
def ofVariable (value : Option RawText) (otherwise : Filter) : Filter :=
  ((value.bind RawText.text?).bind ofString?).getD otherwise

/-- The event has a field of this name. Every event has a message. -/
def hasField (e : Event) (name : String) : Bool :=
  name == "message" || e.fields.any (·.name == name)

/-- The directive is about the event. -/
def covers (d : Directive) (e : Event) : Bool :=
  !d.spanOnly && d.target.all (fun t => t.toList.isPrefixOf e.target.toList)
    && d.field.all (hasField e)

/-- The length of the target of a directive, one more than it has characters; zero without one. -/
def targetLength (d : Directive) : Nat :=
  match d.target with
  | some t => t.toList.length + 1
  | none => 0

/-- The first directive is at least as special as the second: its target is longer, or as long while
the second asks for no field or for one whose name comes no later. -/
def isSpecial (d d' : Directive) : Bool :=
  targetLength d' < targetLength d
    || (targetLength d' == targetLength d
      && match d'.field, d.field with
        | none, _ => true
        | some _, none => false
        | some name', some name => !(name < name'))

/-- The event passes: the most special directive about it admits its level. -/
def admits (f : Filter) (e : Event) : Bool :=
  let decisive := (f.filter (covers · e)).foldl (fun best d =>
    match best with
    | none => some d
    | some b => if isSpecial d b then some d else some b) (none : Option Directive)
  decisive.any fun d => d.threshold.admits e.level

end Filter

end CloudRehearsal.Log
