import CloudRehearsal.Text.Basic

/-!
The smallest parts of JSON text, read from left to right: spaces, words, strings and numbers. Each
step gives what it read and the rest of the text, or the first fault.

A text can be at fault in three ways: it is not JSON, it ends too early, or it is JSON but not of the
form that is wanted.
-/
namespace CloudRehearsal.Json

open Text

/-- The first fault of a text. -/
inductive Fault where
  /-- The text is not JSON. -/
  | malformed
  /-- The text ends too early. -/
  | endsEarly
  /-- The text is JSON so far, but not of the wanted form. -/
  | otherForm
  deriving DecidableEq, Repr

/-- A character that may stand between any two parts. -/
def isSpace (c : Char) : Bool := c == ' ' || c == '\n' || c == '\t' || c == '\r'

/-- The text without the spaces in front. -/
def skipSpaces (cs : List Char) : List Char := cs.dropWhile isSpace

theorem length_skipSpaces_le (cs : List Char) : (skipSpaces cs).length ≤ cs.length :=
  (List.dropWhile_sublist _).length_le

/-! ## Words -/

/-- Reads the rest of a word whose first character has been seen. -/
def word : List Char → List Char → Except Fault (List Char)
  | [], rest => .ok rest
  | _ :: _, [] => .error .endsEarly
  | c :: more, d :: rest => if c = d then word more rest else .error .malformed

theorem length_of_word {w cs rest : List Char} (h : word w cs = .ok rest) :
    rest.length ≤ cs.length := by
  induction w generalizing cs with
  | nil => cases h; exact Nat.le_refl _
  | cons c w ih =>
    cases cs with
    | nil => cases h
    | cons d cs =>
      simp only [word] at h
      split at h
      · have := ih h; simp; omega
      · cases h

/-! ## Strings -/

/-- The number of bytes of a text in UTF-8. -/
def byteLength (cs : List Char) : Nat := cs.foldl (fun n c => n + c.utf8Size) 0

/-- Four hexadecimal digits. A text of fewer than four bytes ends too early, whatever it holds. -/
def hexUnit (cs : List Char) : Except Fault (Nat × List Char) :=
  match cs with
  | a :: b :: c :: d :: rest =>
    match numeral? 16 [a, b, c, d] with
    | some n => .ok (n, rest)
    | none => .error .malformed
  | _ => .error (if byteLength cs < 4 then .endsEarly else .malformed)

/-- The character that a letter after a backslash stands for. -/
def plainEscape? (c : Char) : Option Char :=
  if c = '"' then some '"'
  else if c = '\\' then some '\\'
  else if c = '/' then some '/'
  else if c = 'b' then some '\x08'
  else if c = 'f' then some '\x0c'
  else if c = 'n' then some '\n'
  else if c = 'r' then some '\r'
  else if c = 't' then some '\t'
  else none

/-- Reads what follows a backslash and a `u`. Two units are needed for a character beyond the first
65536, and no half of such a pair may stand alone. -/
def unicodeEscape (cs : List Char) : Except Fault (Char × List Char) :=
  match hexUnit cs with
  | .error e => .error e
  | .ok (n, rest) =>
    if 0xdc00 ≤ n ∧ n ≤ 0xdfff then .error .malformed
    else if n < 0xd800 ∨ 0xdbff < n then .ok (Char.ofNat n, rest)
    else
      match rest with
      | [] => .error .endsEarly
      | '\\' :: [] => .error .endsEarly
      | '\\' :: 'u' :: rest' =>
        match hexUnit rest' with
        | .error e => .error e
        | .ok (m, rest'') =>
          if m < 0xdc00 ∨ 0xdfff < m then .error .malformed
          else .ok (Char.ofNat (0x10000 + (n - 0xd800) * 0x400 + (m - 0xdc00)), rest'')
      | _ => .error .malformed

/-- Reads what follows a backslash. -/
def escape (cs : List Char) : Except Fault (Char × List Char) :=
  match cs with
  | [] => .error .endsEarly
  | 'u' :: rest => unicodeEscape rest
  | c :: rest =>
    match plainEscape? c with
    | some d => .ok (d, rest)
    | none => .error .malformed

theorem length_of_hexUnit {cs rest : List Char} {n : Nat} (h : hexUnit cs = .ok (n, rest)) :
    rest.length < cs.length := by
  unfold hexUnit at h
  split at h
  · split at h
    · cases h; simp; omega
    · cases h
  · cases h

theorem length_of_unicodeEscape {cs rest : List Char} {c : Char}
    (h : unicodeEscape cs = .ok (c, rest)) : rest.length < cs.length := by
  unfold unicodeEscape at h
  split at h
  · cases h
  · rename_i hn
    have first := length_of_hexUnit hn
    split at h
    · cases h
    · split at h
      · simp only [Except.ok.injEq, Prod.mk.injEq] at h
        obtain ⟨_, rfl⟩ := h
        exact first
      · split at h
        · cases h
        · cases h
        · split at h
          · cases h
          · rename_i hm
            have second := length_of_hexUnit hm
            split at h
            · cases h
            · simp only [Except.ok.injEq, Prod.mk.injEq] at h
              obtain ⟨_, rfl⟩ := h
              simp at first
              omega
        · cases h

theorem length_of_escape {cs rest : List Char} {c : Char} (h : escape cs = .ok (c, rest)) :
    rest.length < cs.length := by
  unfold escape at h
  split at h
  · cases h
  · have := length_of_unicodeEscape h; simp; omega
  · split at h
    · cases h; simp
    · cases h

/-- Reads a string on, with the characters found so far in reverse. -/
def stringFrom (found : List Char) (cs : List Char) : Except Fault (List Char × List Char) :=
  match cs with
  | [] => .error .endsEarly
  | c :: rest =>
    if c = '"' then .ok (found.reverse, rest)
    else if c = '\\' then
      match _h : escape rest with
      | .error e => .error e
      | .ok (d, rest') => stringFrom (d :: found) rest'
    else if c.toNat < 0x20 then .error .malformed
    else stringFrom (c :: found) rest
termination_by cs.length
decreasing_by
  · have := length_of_escape ‹_›
    simp; omega
  · simp

/-- Reads a string after its first quote. -/
def string (cs : List Char) : Except Fault (String × List Char) :=
  (stringFrom [] cs).map fun (found, rest) => (String.ofList found, rest)

theorem length_of_stringFrom {found cs rest text : List Char}
    (h : stringFrom found cs = .ok (text, rest)) : rest.length < cs.length := by
  fun_induction stringFrom found cs with
  | case1 => cases h
  | case2 => cases h; simp
  | case3 => cases h
  | case4 found rest' _ _ he _ ih =>
    have first := ih h
    have second := length_of_escape he
    simp; omega
  | case5 => cases h
  | case6 found c rest' _ _ _ ih => have := ih h; simp; omega

theorem length_of_string {cs rest : List Char} {s : String} (h : string cs = .ok (s, rest)) :
    rest.length < cs.length := by
  unfold string at h
  cases hs : stringFrom [] cs with
  | error e => rw [hs] at h; cases h
  | ok p =>
    rw [hs] at h
    cases h
    exact length_of_stringFrom hs

/-- Reads over what follows a backslash in a string whose text does not matter: halves of pairs may
stand alone in it. -/
def skipEscape (cs : List Char) : Except Fault (List Char) :=
  match cs with
  | [] => .error .endsEarly
  | 'u' :: rest => (hexUnit rest).map Prod.snd
  | c :: rest => if (plainEscape? c).isSome then .ok rest else .error .malformed

theorem length_of_skipEscape {cs rest : List Char} (h : skipEscape cs = .ok rest) :
    rest.length < cs.length := by
  unfold skipEscape at h
  split at h
  · cases h
  · rename_i rest'
    cases hu : hexUnit rest' with
    | error e => rw [hu] at h; cases h
    | ok p =>
      rw [hu] at h
      cases h
      have := length_of_hexUnit hu
      simp; omega
  · split at h
    · cases h; simp
    · cases h

/-- Reads over a string after its first quote. -/
def skipString (cs : List Char) : Except Fault (List Char) :=
  match cs with
  | [] => .error .endsEarly
  | c :: rest =>
    if c = '"' then .ok rest
    else if c = '\\' then
      match _h : skipEscape rest with
      | .error e => .error e
      | .ok rest' => skipString rest'
    else if c.toNat < 0x20 then .error .malformed
    else skipString rest
termination_by cs.length
decreasing_by
  · have := length_of_skipEscape ‹_›
    simp; omega
  · simp

theorem length_of_skipString {cs rest : List Char} (h : skipString cs = .ok rest) :
    rest.length < cs.length := by
  fun_induction skipString cs with
  | case1 => cases h
  | case2 => cases h; simp
  | case3 => cases h
  | case4 rest' _ he _ ih =>
    have first := ih h
    have second := length_of_skipEscape he
    simp; omega
  | case5 => cases h
  | case6 c rest' _ _ _ ih => have := ih h; simp; omega

/-! ## Numbers -/

/-- The parts of a number, as far as the text has them. -/
structure Number where
  whole : List Char
  /-- The digits after the point, when there is one. -/
  fraction : Option (List Char)
  /-- The sign and the digits after the letter of the exponent, when there is one. -/
  exponent : Option (Bool × List Char)
  rest : List Char

/-- The exponent at the front of a text, and the rest. -/
def exponent (cs : List Char) : Option (Bool × List Char) × List Char :=
  match cs with
  | c :: rest =>
    if c = 'e' ∨ c = 'E' then
      let (negative, rest) := match rest with
        | '+' :: rest => (false, rest)
        | '-' :: rest => (true, rest)
        | rest => (false, rest)
      (some (negative, rest.takeWhile isDigit), rest.dropWhile isDigit)
    else (none, cs)
  | [] => (none, [])

/-- The whole part of a number, and the rest: a zero in front stands alone. -/
def wholePart (cs : List Char) : List Char × List Char :=
  match cs with
  | '0' :: rest => (['0'], rest)
  | _ => (cs.takeWhile isDigit, cs.dropWhile isDigit)

/-- The number whose whole part and fraction have been read. -/
def withExponent (whole : List Char) (fraction : Option (List Char)) (cs : List Char) : Number :=
  ⟨whole, fraction, (exponent cs).1, (exponent cs).2⟩

/-- The number whose whole part has been read. An exponent is looked for only after a whole number
or a fraction that has digits. -/
def withFraction (whole : List Char) (cs : List Char) : Number :=
  match cs with
  | '.' :: rest =>
    if (rest.takeWhile isDigit).isEmpty then ⟨whole, some [], none, rest⟩
    else withExponent whole (some (rest.takeWhile isDigit)) (rest.dropWhile isDigit)
  | _ => withExponent whole none cs

/-- The parts of the number at the front of a text, its sign already read. -/
def number (cs : List Char) : Number := withFraction (wholePart cs).1 (wholePart cs).2

theorem length_dropWhile_isDigit (cs : List Char) : (cs.dropWhile isDigit).length ≤ cs.length :=
  (List.dropWhile_sublist _).length_le

theorem length_exponent_le (cs : List Char) : (exponent cs).2.length ≤ cs.length := by
  unfold exponent
  split
  · split
    · simp only [List.length_cons]
      split <;> exact Nat.le_trans (length_dropWhile_isDigit _) (by simp; try omega)
    · exact Nat.le_refl _
  · exact Nat.le_refl _

theorem length_number_le (cs : List Char) : (number cs).rest.length ≤ cs.length := by
  have whole : (wholePart cs).2.length ≤ cs.length := by
    unfold wholePart
    split
    · simp
    · exact length_dropWhile_isDigit _
  refine Nat.le_trans ?_ whole
  unfold number withFraction
  split
  · rename_i rest h
    rw [h]
    split
    · simp
    · have := length_exponent_le (rest.dropWhile isDigit)
      have := length_dropWhile_isDigit rest
      simp only [withExponent, List.length_cons]
      omega
  · exact length_exponent_le _

/-- What is wrong with the shape of a number; a text that ends where a digit must stand counts as
`atEnd`. -/
def Number.fault? (atEnd : Fault) (n : Number) : Option Fault :=
  let missing := if n.rest.isEmpty then atEnd else .malformed
  if n.whole.isEmpty then some missing
  else if n.whole = ['0'] && n.rest.head?.any isDigit && n.fraction.isNone && n.exponent.isNone then
    some .malformed
  else if n.fraction = some [] then some missing
  else
    match n.exponent with
    | some (_, []) => some missing
    | _ => none

end CloudRehearsal.Json
