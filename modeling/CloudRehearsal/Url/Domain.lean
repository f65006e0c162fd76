import CloudRehearsal.Text.Basic
import CloudRehearsal.Unicode.Composition
import CloudRehearsal.Unicode.Direction
import CloudRehearsal.Unicode.HostMapping
import CloudRehearsal.Unicode.Joining
import CloudRehearsal.Unicode.Mark
import CloudRehearsal.Url.Punycode

/-!
Domain names: labels between full stops, prepared by Unicode Technical Standard 46 and checked for
what a label may hold. Hyphens may stand anywhere, and nothing is said about lengths that the name
system itself would refuse.

`labels?` gives the labels in their Unicode form, or nothing for a text that is no domain name.
-/
namespace CloudRehearsal.Url.Domain

open Text Unicode

/-- The ASCII characters that no host holds: controls, the space, the percent sign, and what divides
a URL. -/
def isForbidden (c : Char) : Bool :=
  c.toNat ≤ 0x20 || c.toNat == 0x7f
    || ['#', '%', '/', ':', '<', '>', '?', '@', '[', '\\', ']', '^', '|'].contains c

/-! ## Joiners -/

/-- Each joiner stands after a virama, or is a non-joiner between letters that would join.
`before` is the text in front, nearest character first. -/
def joinersFit (before : List Char) : List Char → Bool
  | [] => true
  | c :: rest =>
    let fits :=
      if c.toNat == 0x200c || c.toNat == 0x200d then
        match before with
        | [] => false
        | b :: _ =>
          Composition.combiningClass b == 9
            || (c.toNat == 0x200c && Joining.joinsForward before && Joining.joinsBackward rest)
      else true
    fits && joinersFit (c :: before) rest

/-! ## Direction -/

/-- A class that a label which runs from left to right may hold. -/
def inLeftToRight : Direction → Bool
  | .leftToRight | .europeanNumber | .europeanSeparator | .commonSeparator | .europeanTerminator
  | .otherNeutral | .boundaryNeutral | .nonspacing => true
  | _ => false

/-- A class that a label which runs from right to left may hold. -/
def inRightToLeft : Direction → Bool
  | .rightToLeft | .arabicLetter | .arabicNumber | .europeanNumber | .europeanSeparator
  | .commonSeparator | .europeanTerminator | .otherNeutral | .boundaryNeutral | .nonspacing => true
  | _ => false

/-- A class that can end a label, marks aside. -/
def endsLabel (leftwards : Bool) : Direction → Bool
  | .europeanNumber => true
  | .leftToRight => !leftwards
  | .rightToLeft | .arabicLetter | .arabicNumber => leftwards
  | _ => false

/-- The label keeps the rule for names in which some label runs from right to left (RFC 5893). -/
def directionFits (label : List Char) : Bool :=
  match label.map Direction.ofChar with
  | [] => true
  | first :: after =>
    let fits (leftwards : Bool) (allowed : Direction → Bool) :=
      match after.reverse.dropWhile (· == .nonspacing) with
      | [] => true
      | last :: inner => endsLabel leftwards last && inner.all allowed
    match first with
    | .leftToRight => fits false inLeftToRight
    | .rightToLeft | .arabicLetter =>
      fits true inRightToLeft && !(after.contains .europeanNumber && after.contains .arabicNumber)
    | _ => false

/-- The label holds a character that runs from right to left. -/
def hasRightToLeft (label : List Char) : Bool :=
  label.any fun c =>
    match Direction.ofChar c with
    | .rightToLeft | .arabicLetter | .arabicNumber => true
    | _ => false

/-! ## Labels -/

/-- Every character is ASCII. -/
def isAscii (label : List Char) : Bool := label.all (·.toNat < 128)

/-- No mark in front, and joiners where they may stand. -/
def isFormed (label : List Char) : Bool :=
  (match label with | [] => true | c :: _ => !isMark c) && joinersFit [] label

/-- The characters that a label may have when it is to be spelled in ASCII. -/
def longest : Nat := 1000

/-- The label that an ASCII spelling stands for: not ASCII itself, prepared and composed. -/
def decoded? (spelling : List Char) : Option (List Char) :=
  if 2000 < spelling.length || !isAscii spelling then none
  else (Punycode.decode? spelling).filter fun label =>
    label.length ≤ longest && !isAscii label && label.all stays
      && Composition.composed label == label && isFormed label

/-- A prepared label in its Unicode form. -/
def label? (cs : List Char) : Option (List Char) :=
  match dropStart? ['x', 'n', '-', '-'] cs with
  | some spelling => decoded? spelling
  | none => if isAscii cs || (cs.length ≤ longest && isFormed cs) then some cs else none

/-- The text with each character prepared, composed. -/
def prepared? (cs : List Char) : Option (List Char) :=
  (cs.mapM Unicode.prepared?).map fun found =>
    let all := found.flatten
    if isAscii all then all else Composition.composed all

/-- The labels of a domain name, in their Unicode form. -/
def labels? (cs : List Char) : Option (List (List Char)) := do
  let labels ← (pieces (· == '.') (← prepared? cs)).mapM label?
  guard (labels.all fun label => !label.any isForbidden)
  guard (!labels.any hasRightToLeft || labels.all directionFits)
  return labels

end CloudRehearsal.Url.Domain
