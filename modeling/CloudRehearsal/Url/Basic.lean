import CloudRehearsal.Text.Utf8
import CloudRehearsal.Url.Address
import CloudRehearsal.Url.Domain

/-!
Reading a URL by the rules of the web (WHATWG): spaces and controls around it and line breaks inside
it are dropped, a scheme comes first, and the schemes of the web need a host.

`Url.parse` gives the scheme and the host, or the first fault. Nothing after the port can be at
fault, so paths, queries and fragments are not looked at.
-/
namespace CloudRehearsal

open Text

/-- Where a URL points. -/
inductive Host where
  /-- A domain name, by its labels. -/
  | name (labels : List (List Char))
  | four (address : Nat)
  | eight (pieces : List Nat)
  /-- A host of a scheme that the web gives no meaning to. -/
  | plain (text : List Char)
  deriving DecidableEq, Repr

/-- A URL, as far as it can be at fault. -/
structure Url where
  scheme : String
  host : Option Host
  deriving DecidableEq, Repr

namespace Url

/-- Why a text is no URL. -/
inductive Fault where
  | noScheme
  | emptyHost
  | invalidPort
  | invalidFour
  | invalidEight
  | invalidName
  | invalidCharacter
  deriving DecidableEq, Repr

/-- The words that report a fault. -/
def Fault.reason : Fault → String
  | .noScheme => "relative URL without a base"
  | .emptyHost => "empty host"
  | .invalidPort => "invalid port number"
  | .invalidFour => "invalid IPv4 address"
  | .invalidEight => "invalid IPv6 address"
  | .invalidName => "invalid international domain name"
  | .invalidCharacter => "invalid domain character"

/-! ## Scheme -/

/-- What the web makes of a scheme. -/
inductive Kind where
  /-- A scheme that needs a host. -/
  | web
  | file
  | other
  deriving DecidableEq, Repr

/-- The kind of a scheme in small letters. -/
def Kind.ofScheme (scheme : String) : Kind :=
  if ["http", "https", "ws", "wss", "ftp"].contains scheme then .web
  else if scheme = "file" then .file
  else .other

/-- A backslash divides like a slash, except where the web gives a scheme no meaning. -/
def Kind.isSlash (k : Kind) (c : Char) : Bool := c == '/' || (c == '\\' && k != .other)

/-- The character ends an authority. -/
def Kind.endsAuthority (k : Kind) (c : Char) : Bool := k.isSlash c || c == '?' || c == '#'

/-- The scheme in small letters, and the text after its colon. -/
def scheme? (cs : List Char) : Option (String × List Char) :=
  match cutAt? (· == ':') cs with
  | some (c :: name, rest) =>
    if isLetter c && name.all (fun d => isLetter d || isDigit d || ['+', '-', '.'].contains d) then
      some (String.ofList ((c :: name).map lower), rest)
    else none
  | _ => none

/-! ## Host -/

/-- The host between square brackets. -/
def bracketed (cs : List Char) : Except Fault Host :=
  if cs.getLast? = some ']' then
    match Eight.address? (cs.dropLast.drop 1) with
    | some pieces => .ok (.eight pieces)
    | none => .error .invalidEight
  else .error .invalidEight

/-- The bytes that a percent-encoded text stands for. A percent sign without two digits after it
stands for itself. -/
def percentDecoded : List Char → List UInt8
  | '%' :: a :: b :: rest =>
    match digit? 16 a, digit? 16 b with
    | some m, some n => UInt8.ofNat (16 * m + n) :: percentDecoded rest
    | _, _ => 0x25 :: percentDecoded (a :: b :: rest)
  | c :: rest => String.utf8EncodeChar c ++ percentDecoded rest
  | [] => []

/-- The host of a scheme of the web. -/
def webHost (cs : List Char) : Except Fault Host :=
  if cs.head? = some '[' then bracketed cs
  else
    match Utf8.chars? (percentDecoded cs) with
    | .error _ => .error .invalidName
    | .ok text =>
      match Domain.labels? text with
      | none => .error .invalidName
      | some labels =>
        if labels.flatten.isEmpty && labels.length ≤ 1 then .error .emptyHost
        else if Four.isMeant labels then
          match Four.address? labels with
          | some address => .ok (.four address)
          | none => .error .invalidFour
        else .ok (.name labels)

/-- A character that no host holds, whatever the scheme. -/
def isForbidden (c : Char) : Bool :=
  ['\x00', '\t', '\n', '\r', ' ', '#', '/', ':', '<', '>', '?', '@', '[', '\\', ']', '^', '|'].contains c

/-- The host of a scheme that the web gives no meaning to. -/
def plainHost (cs : List Char) : Except Fault Host :=
  if cs.head? = some '[' then bracketed cs
  else if cs.any isForbidden then .error .invalidCharacter
  else .ok (.plain cs)

/-- The text up to where the host ends, and the rest. A colon between brackets ends nothing. -/
def splitHost (k : Kind) (inBrackets : Bool) : List Char → List Char × List Char
  | [] => ([], [])
  | c :: rest =>
    if k.endsAuthority c || (c == ':' && !inBrackets) then ([], c :: rest)
    else
      let (host, after) := splitHost k (c == '[' || (inBrackets && c != ']')) rest
      (c :: host, after)

/-! ## Authority -/

/-- Whether a name or password stands in front of the host, and the text from the host on. -/
def afterUser (k : Kind) (cs : List Char) : Except Fault (Bool × List Char) :=
  let authority := cs.takeWhile (! k.endsAuthority ·)
  if authority.contains '@' then
    let host := (authority.reverse.takeWhile (· != '@')).reverse
    let user := authority.take (authority.length - host.length - 1)
    let rest := cs.drop (user.length + 1)
    if user.isEmpty && rest.head?.any k.endsAuthority then .error .emptyHost
    else .ok (!user.isEmpty && user != [':'], rest)
  else .ok (false, cs)

/-- The port is a number below 65536, up to where the authority ends. -/
def portFits (cs : List Char) : Bool :=
  let port := cs.takeWhile (! ['/', '\\', '?', '#'].contains ·)
  match numeral? 10 port with
  | some n => n < 65536
  | none => false

/-- The host of an authority, and whether all of the authority is well formed. -/
def authority (k : Kind) (cs : List Char) : Except Fault (Option Host) := do
  let (hasUser, cs) ← afterUser k cs
  let (text, rest) := splitHost k false cs
  if k == .web && text.isEmpty then throw .emptyHost
  let host ← if k == .other then plainHost text else webHost text
  let port := if rest.head? = some ':' then some (rest.drop 1) else none
  if text.isEmpty && port.isSome then throw .emptyHost
  if !port.all portFits then throw .invalidPort
  if text.isEmpty && hasUser then throw .emptyHost
  return if text.isEmpty then none else some host

/-- A letter and a colon or bar, which name a drive and not a host. -/
def isDrive : List Char → Bool
  | [c, d] => isLetter c && (d == ':' || d == '|')
  | _ => false

/-- The host of a file. -/
def fileHost (cs : List Char) : Except Fault (Option Host) :=
  match cs with
  | a :: b :: rest =>
    if Kind.isSlash .file a && Kind.isSlash .file b then
      let text := rest.takeWhile (! Kind.endsAuthority .file ·)
      if text.isEmpty || isDrive text then .ok none else some <$> webHost text
    else .ok none
  | _ => .ok none

/-! ## The whole -/

/-- A character that is dropped at either end. -/
def isMargin (c : Char) : Bool := c.toNat ≤ 0x20

/-- A character that is dropped wherever it stands. -/
def isBreak (c : Char) : Bool := c == '\t' || c == '\n' || c == '\r'

/-- The text that is read: no spaces and controls at the ends, and no line breaks and tabs. -/
def stripped (cs : List Char) : List Char :=
  (((cs.dropWhile isMargin).reverse.dropWhile isMargin).reverse).filter (! isBreak ·)

/-- The scheme and the host of a URL, or its first fault. -/
def parse (s : String) : Except Fault Url :=
  match scheme? (stripped s.toList) with
  | none => .error .noScheme
  | some (scheme, rest) => do
    let host ← match Kind.ofScheme scheme with
      | .web => authority .web (rest.dropWhile (Kind.isSlash .web))
      | .file => fileHost rest
      | .other =>
        match dropStart? ['/', '/'] rest with
        | some rest => authority .other rest
        | none => pure none
    return { scheme, host }

end Url

end CloudRehearsal
