import CloudRehearsal.Text.Utf8

/-!
Text from outside the program, an argument or the value of a variable, which may hold bytes that
spell no character.

Such a text is a sequence of characters and stray groups of bytes. It is a text proper when nothing
is stray.
-/
namespace CloudRehearsal.Text

/-- A character, or bytes that spell none. -/
inductive RawUnit where
  | char (c : Char)
  | stray (bytes : List UInt8)
  deriving DecidableEq, Repr

/-- Text that may hold stray bytes. -/
abbrev RawText := List RawUnit

namespace RawText

/-- A text proper. -/
def ofString (s : String) : RawText := s.toList.map .char

/-- Reads on, with the units found so far in reverse. -/
def readFrom (found : List RawUnit) : List UInt8 → RawText
  | [] => found.reverse
  | a :: after =>
    match _h : Utf8.front a after with
    | .char c rest => readFrom (.char c :: found) rest
    | .stray width rest => readFrom (.stray ((a :: after).take width) :: found) rest
    | .cut => (.stray (a :: after) :: found).reverse
termination_by bytes => bytes.length
decreasing_by
  · have := Utf8.length_of_front_char ‹_›
    simp; omega
  · have := Utf8.length_of_front_stray ‹_›
    simp; omega

/-- The text that bytes spell. -/
def ofBytes (bytes : List UInt8) : RawText := readFrom [] bytes

/-- The characters, when nothing is stray. -/
def chars? (t : RawText) : Option (List Char) :=
  t.mapM fun
    | .char c => some c
    | .stray _ => none

/-- The text, when nothing is stray. -/
def text? (t : RawText) : Option String := t.chars?.map String.ofList

/-- The text with a replacement character for each stray group. -/
def lenient (t : RawText) : String :=
  String.ofList <| t.map fun
    | .char c => c
    | .stray _ => Utf8.replacement

theorem chars?_map_char (cs : List Char) : chars? (cs.map .char) = some cs := by
  induction cs with
  | nil => rfl
  | cons c cs ih =>
    simp only [chars?, List.map_cons, List.mapM_cons] at ih ⊢
    simp [ih]

theorem text?_ofString (s : String) : text? (ofString s) = some s := by
  simp [text?, ofString, chars?_map_char, String.ofList_toList]

end RawText

end CloudRehearsal.Text
