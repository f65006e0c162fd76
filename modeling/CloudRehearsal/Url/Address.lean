import CloudRehearsal.Text.Basic

/-!
Numeric addresses in the host of a URL: four bytes or fewer numbers written decimal, octal or
hexadecimal, and eight pieces in brackets.
-/
namespace CloudRehearsal.Url

open Text

/-! ## Four bytes -/

namespace Four

/-- The number that a part of an address spells, in the base that its start shows; `0x` alone is
zero. -/
def part? : List Char → Option Nat
  | [] => none
  | '0' :: 'x' :: rest => numeral? 16 rest
  | '0' :: 'X' :: rest => numeral? 16 rest
  | '0' :: d :: rest => numeral? 8 (d :: rest)
  | cs => numeral? 10 cs

/-- The parts without an empty one at the end. -/
def trimmed (parts : List (List Char)) : List (List Char) :=
  if parts.getLast? = some [] then parts.dropLast else parts

/-- A name whose last part is a number is meant as an address. -/
def isMeant (parts : List (List Char)) : Bool :=
  match (trimmed parts).getLast? with
  | none => false
  | some last => (!last.isEmpty && last.all isDigit) || (part? last).isSome

/-- The address that the parts spell: each but the last is a byte, and the last fills what is
left. -/
def address? (parts : List (List Char)) : Option Nat := do
  let numbers ← (trimmed parts).mapM part?
  let last ← numbers.getLast?
  let bytes := numbers.dropLast
  guard (numbers.length ≤ 4 && bytes.all (· ≤ 255) && last < Nat.pow 256 (4 - bytes.length))
  return bytes.zipIdx.foldl (fun n (b, i) => n + b * Nat.pow 256 (3 - i)) last

end Four

/-! ## Eight pieces -/

namespace Eight

/-- An address as far as it has been read. -/
structure Progress where
  /-- The pieces read, the latest first. -/
  pieces : List Nat
  /-- How many pieces came before the zeros that a double colon stands for. -/
  gap : Option Nat

/-- The four bytes at the end of an address, as two pieces. -/
def bytesAtEnd? (cs : List Char) : Option (Nat × Nat) := do
  let numbers ← (Text.pieces (· == '.') cs).mapM fun part => do
    guard (!part.isEmpty && (part.head? ≠ some '0' || part.length = 1))
    let n ← numeral? 10 part
    guard (n ≤ 255)
    return n
  match numbers with
  | [a, b, c, d] => some (a * 256 + b, c * 256 + d)
  | _ => none

/-- The eight pieces, zeros put in for a double colon. A double colon stands for at least one. -/
def Progress.address? (p : Progress) : Option (List Nat) :=
  let read := p.pieces.reverse
  match p.gap with
  | some i =>
    if read.length < 8 then some (read.take i ++ List.replicate (8 - read.length) 0 ++ read.drop i)
    else none
  | none => if read.length = 8 then some read else none

/-- How many of the eight pieces are taken, a double colon counting as one. -/
def Progress.length (p : Progress) : Nat := p.pieces.length + (if p.gap.isSome then 1 else 0)

/-- Reads on from the start of a piece. -/
def readPieces (p : Progress) (cs : List Char) : Option Progress :=
  match cs with
  | [] => some p
  | c :: after =>
    if 8 ≤ p.length then none
    else if c = ':' then
      if p.gap.isSome then none else readPieces ⟨p.pieces, some p.pieces.length⟩ after
    else
      let number := ((c :: after).take 4).takeWhile (fun d => (digit? 16 d).isSome)
      let value := (numeral? 16 number).getD 0
      match h : (c :: after).drop number.length with
      | [] => some { p with pieces := value :: p.pieces }
      | '.' :: _ =>
        if number.isEmpty || 6 < p.length then none
        else (bytesAtEnd? (c :: after)).map fun (a, b) => { p with pieces := b :: a :: p.pieces }
      | ':' :: rest =>
        have : rest.length ≤ after.length := by
          have := congrArg List.length h
          simp only [List.length_drop, List.length_cons] at this
          omega
        if rest.isEmpty then none else readPieces { p with pieces := value :: p.pieces } rest
      | _ => none
termination_by cs.length
decreasing_by
  all_goals
    simp only [List.length_cons]
    omega

/-- The pieces of the address between two brackets. -/
def address? (cs : List Char) : Option (List Nat) :=
  let read :=
    match cs with
    | ':' :: ':' :: rest => readPieces ⟨[], some 0⟩ rest
    | ':' :: _ | [] | [_] => none
    | cs => readPieces ⟨[], none⟩ cs
  read.bind Progress.address?

end Eight

end CloudRehearsal.Url
