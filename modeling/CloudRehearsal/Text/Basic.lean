/-!
What is said of characters and texts throughout: which characters are letters, digits and white space,
how a text is taken apart and looked through, and how numbers are written in digits.
-/
namespace CloudRehearsal.Text

/-! ## Letters

Only `A` to `Z` have a lower-case form here; every other character stands for itself. -/

/-- The lower-case form of an ASCII capital, and every other character as it is. -/
def lower (c : Char) : Char :=
  if 'A' ≤ c ∧ c ≤ 'Z' then Char.ofNat (c.toNat + 32) else c

/-- The capital of an ASCII letter, and every other character as it is. -/
def upper (c : Char) : Char :=
  if 'a' ≤ c ∧ c ≤ 'z' then Char.ofNat (c.toNat - 32) else c

/-- The text with its ASCII capitals in lower case. -/
def lowerCase (s : String) : String := String.ofList (s.toList.map lower)

/-- The text with its ASCII letters in capitals. -/
def upperCase (s : String) : String := String.ofList (s.toList.map upper)

/-- Equal up to the case of ASCII letters. -/
def sameLetters (s t : String) : Bool := s.toList.map lower == t.toList.map lower

/-- A letter of the Roman alphabet, in either case. -/
def isLetter (c : Char) : Bool := ('a' ≤ c && c ≤ 'z') || ('A' ≤ c && c ≤ 'Z')

/-- One of the ten decimal digits of ASCII. -/
def isDigit (c : Char) : Bool := '0' ≤ c && c ≤ '9'

/-! ## White space

The characters with the Unicode property White_Space decide whether a region, an address or a line of
output counts as blank. -/

/-- The character has the Unicode property White_Space. -/
def isBlank (c : Char) : Bool :=
  let n := c.toNat
  (0x9 ≤ n && n ≤ 0xd) || n == 0x20 || n == 0x85 || n == 0xa0 || n == 0x1680
    || (0x2000 ≤ n && n ≤ 0x200a) || n == 0x2028 || n == 0x2029 || n == 0x202f || n == 0x205f
    || n == 0x3000

/-- A text without any character that shows: empty, or white space throughout. -/
def blank (s : String) : Bool := s.toList.all isBlank

theorem blank_eq_true_iff {s : String} : blank s = true ↔ ∀ c ∈ s.toList, isBlank c = true := by
  simp [blank]

theorem blank_empty : blank "" = true := by simp [blank]

/-! ## Pieces of a text -/

/-- The pieces between the characters at which `cut` holds: one more than there are cuts. -/
def pieces (cut : Char → Bool) (cs : List Char) : List (List Char) :=
  cs.foldr (fun c found =>
    if cut c then [] :: found
    else match found with
      | [] => [[c]]
      | piece :: more => (c :: piece) :: more) [[]]

/-- The non-empty pieces between spaces and line breaks. -/
def words (s : String) : List (List Char) :=
  (pieces (fun c => c == ' ' || c == '\n') s.toList).filter (! ·.isEmpty)

/-- The text before the first character at which `cut` holds, and the text after it; none when there
is no such character. -/
def cutAt? (cut : Char → Bool) (cs : List Char) : Option (List Char × List Char) :=
  match cs.dropWhile (! cut ·) with
  | [] => none
  | _ :: after => some (cs.takeWhile (! cut ·), after)

/-- The text without a start that it must have. -/
def dropStart? : List Char → List Char → Option (List Char)
  | [], rest => some rest
  | _ :: _, [] => none
  | c :: start, d :: rest => if c = d then dropStart? start rest else none

/-! ## A text inside another -/

/-- The characters `part` stand one after another somewhere in a text. -/
def holds (part : List Char) : List Char → Bool
  | [] => part.isEmpty
  | c :: cs => part.isPrefixOf (c :: cs) || holds part cs

theorem holds_iff_infix {part cs : List Char} : holds part cs = true ↔ part <:+: cs := by
  induction cs with
  | nil => simp [holds]
  | cons c cs ih => simp [holds, ih, List.infix_cons_iff]

/-- The text contains `part`. -/
def contains (s part : String) : Bool := holds part.toList s.toList

theorem contains_iff {s part : String} : contains s part = true ↔ part.toList <:+: s.toList :=
  holds_iff_infix

/-- The text begins with `start`. -/
def startsWith (s start : String) : Bool := start.toList.isPrefixOf s.toList

theorem startsWith_iff {s start : String} :
    startsWith s start = true ↔ start.toList <+: s.toList := by
  simp [startsWith]

/-! ## Numerals

A base has at most 36 digits, and the most significant stands first. Digits above nine are the letters
of the alphabet; reading takes either case, writing uses small letters. -/

/-- The value of a digit or letter, whatever the base. -/
def digitValue (c : Char) : Option Nat :=
  let n := c.toNat
  if 0x30 ≤ n ∧ n ≤ 0x39 then some (n - 0x30)
  else if 0x61 ≤ n ∧ n ≤ 0x7a then some (n - 0x61 + 10)
  else if 0x41 ≤ n ∧ n ≤ 0x5a then some (n - 0x41 + 10)
  else none

/-- The value of a digit of the base. -/
def digit? (base : Nat) (c : Char) : Option Nat := (digitValue c).filter (· < base)

/-- The number that the digits spell, zero when there are none; none when one is no digit of the
base. -/
def numeral? (base : Nat) (cs : List Char) : Option Nat :=
  cs.foldl (fun n c => do return (← n) * base + (← digit? base c)) (some 0)

/-- The number in small hexadecimal digits. -/
def hex (n : Nat) : List Char := Nat.toDigits 16 n

/-- The last `width` hexadecimal digits of a number, zeros in front. -/
def hexPadded : Nat → Nat → List Char
  | 0, _ => []
  | width + 1, n => hexPadded width (n / 16) ++ [Nat.digitChar (n % 16)]

theorem length_hexPadded (width n : Nat) : (hexPadded width n).length = width := by
  induction width generalizing n with
  | zero => rfl
  | succ width ih => simp [hexPadded, ih]

/-- Each digit is that of a number below sixteen. -/
theorem exists_digit_of_mem_hexPadded {width n : Nat} {c : Char} (h : c ∈ hexPadded width n) :
    ∃ d < 16, c = Nat.digitChar d := by
  induction width generalizing n with
  | zero => cases h
  | succ width ih =>
    rw [hexPadded, List.mem_append, List.mem_singleton] at h
    rcases h with h | h
    · exact ih h
    · exact ⟨n % 16, Nat.mod_lt n (by decide), h⟩

end CloudRehearsal.Text
