import CloudRehearsal.Text.Basic

/-!
JSON values as this library writes them, and their compact written form: no blanks, members in the
order given, and escapes only for quotes, backslashes and controls.
-/
namespace CloudRehearsal

open Text

/-- A JSON value without numbers, of which nothing here is made. -/
inductive Json where
  | null
  | bool (b : Bool)
  | text (s : String)
  | list (items : List Json)
  | record (members : List (String × Json))

namespace Json

/-- An absent value is written as null. -/
def optional {α : Type} (encode : α → Json) : Option α → Json
  | some a => encode a
  | none => .null

/-- How one character stands in a written string. -/
def escaped (c : Char) : List Char :=
  if c = '"' then ['\\', '"']
  else if c = '\\' then ['\\', '\\']
  else if c = '\x08' then ['\\', 'b']
  else if c = '\x0c' then ['\\', 'f']
  else if c = '\n' then ['\\', 'n']
  else if c = '\r' then ['\\', 'r']
  else if c = '\t' then ['\\', 't']
  else if c.toNat < 0x20 then ['\\', 'u'] ++ hexPadded 4 c.toNat
  else [c]

/-- A string between quotes. -/
def written (s : String) : List Char := '"' :: (s.toList.flatMap escaped ++ ['"'])

mutual

/-- The compact form of a value. -/
def compactChars : Json → List Char
  | .null => ['n', 'u', 'l', 'l']
  | .bool true => ['t', 'r', 'u', 'e']
  | .bool false => ['f', 'a', 'l', 's', 'e']
  | .text s => written s
  | .list items => '[' :: compactItems items
  | .record members => '\x7b' :: compactMembers members

/-- The items of a list and the bracket after them. -/
def compactItems : List Json → List Char
  | [] => [']']
  | [v] => compactChars v ++ [']']
  | v :: rest => compactChars v ++ ',' :: compactItems rest

/-- The members of a record and the brace after them. -/
def compactMembers : List (String × Json) → List Char
  | [] => ['\x7d']
  | [(name, v)] => written name ++ ':' :: compactChars v ++ ['\x7d']
  | (name, v) :: rest => written name ++ ':' :: compactChars v ++ ',' :: compactMembers rest

end

/-- The compact text of a value. -/
def compact (v : Json) : String := String.ofList v.compactChars

end Json

end CloudRehearsal
