/-!
UTF-8: reading characters off bytes, with the exact place and kind of the first fault, and the
lenient reading that puts a replacement character where a fault is.

A fault is either a stray group of one to three bytes that no character starts with, or a text that
ends inside a character.
-/
namespace CloudRehearsal.Text.Utf8

/-- The character U+FFFD, which stands for what cannot be read. -/
def replacement : Char := Char.ofNat 0xfffd

/-- What the front of a byte sequence holds. -/
inductive Front where
  /-- A character, and the bytes after it. -/
  | char (c : Char) (rest : List UInt8)
  /-- Stray bytes, as many as rule the character out, and the bytes after them. -/
  | stray (width : Nat) (rest : List UInt8)
  /-- The sequence ends inside a character. -/
  | cut
  deriving Repr

/-- A byte that continues a character. -/
def isTail (b : UInt8) : Bool := 0x80 ≤ b && b ≤ 0xbf

/-- The six bits that a continuing byte carries. -/
def tailBits (b : UInt8) : Nat := b.toNat % 64

/-- The least and the greatest second byte after a first byte of a character of three bytes or four:
the bounds leave out overlong forms, surrogates and numbers above the last code point. -/
def secondBounds (first : UInt8) : UInt8 × UInt8 :=
  if first == 0xe0 then (0xa0, 0xbf)
  else if first == 0xed then (0x80, 0x9f)
  else if first == 0xf0 then (0x90, 0xbf)
  else if first == 0xf4 then (0x80, 0x8f)
  else (0x80, 0xbf)

/-- The second byte fits the first. -/
def fitsSecond (first second : UInt8) : Bool :=
  (secondBounds first).1 ≤ second && second ≤ (secondBounds first).2

/-- The character or the fault at the front of a non-empty sequence. -/
def front (a : UInt8) (after : List UInt8) : Front :=
  if a ≤ 0x7f then .char (Char.ofNat a.toNat) after
  else if a < 0xc2 || 0xf4 < a then .stray 1 after
  else if a ≤ 0xdf then
    match after with
    | [] => .cut
    | b :: rest =>
      if isTail b then .char (Char.ofNat (a.toNat % 32 * 64 + tailBits b)) rest else .stray 1 after
  else if a ≤ 0xef then
    match after with
    | [] => .cut
    | b :: rest =>
      if fitsSecond a b then
        match rest with
        | [] => .cut
        | c :: rest' =>
          if isTail c then
            .char (Char.ofNat ((a.toNat % 16 * 64 + tailBits b) * 64 + tailBits c)) rest'
          else .stray 2 rest
      else .stray 1 after
  else
    match after with
    | [] => .cut
    | b :: rest =>
      if fitsSecond a b then
        match rest with
        | [] => .cut
        | c :: rest' =>
          if isTail c then
            match rest' with
            | [] => .cut
            | d :: rest'' =>
              if isTail d then
                .char (Char.ofNat (((a.toNat % 8 * 64 + tailBits b) * 64 + tailBits c) * 64
                  + tailBits d)) rest''
              else .stray 3 rest'
          else .stray 2 rest
      else .stray 1 after

theorem length_of_front_char {a : UInt8} {after rest : List UInt8} {c : Char}
    (h : front a after = .char c rest) : rest.length ≤ after.length := by
  unfold front at h
  repeat' split at h
  all_goals first
    | (injection h with _ h; subst h; simp_all; try omega)
    | cases h

theorem length_of_front_stray {a : UInt8} {after rest : List UInt8} {n : Nat}
    (h : front a after = .stray n rest) : rest.length ≤ after.length := by
  unfold front at h
  repeat' split at h
  all_goals first
    | (injection h with _ h; subst h; simp_all; try omega)
    | cases h

/-- Why a byte sequence is no text. -/
structure Fault where
  /-- How many bytes before the fault are text. -/
  index : Nat
  /-- How many bytes are stray; none when the sequence ends inside a character. -/
  width : Option Nat
  deriving DecidableEq, Repr

/-- The sentence that reports a fault. -/
def Fault.message (f : Fault) : String :=
  match f.width with
  | some width => s!"invalid utf-8 sequence of {width} bytes from index {f.index}"
  | none => s!"incomplete utf-8 byte sequence from index {f.index}"

/-- Reads on from `index`, with the characters found so far in reverse. -/
def readFrom (index : Nat) (found : List Char) : List UInt8 → Except Fault (List Char)
  | [] => .ok found.reverse
  | a :: after =>
    match _h : front a after with
    | .char c rest => readFrom (index + (after.length + 1 - rest.length)) (c :: found) rest
    | .stray width _ => .error ⟨index, some width⟩
    | .cut => .error ⟨index, none⟩
termination_by bytes => bytes.length
decreasing_by
  have := length_of_front_char ‹_›
  simp; omega

/-- The characters that the bytes spell, or the first fault. -/
def chars? (bytes : List UInt8) : Except Fault (List Char) := readFrom 0 [] bytes

/-- The text that the bytes spell, or the first fault. -/
def text? (bytes : List UInt8) : Except Fault String := (chars? bytes).map String.ofList

/-- Reads on leniently, with the characters found so far in reverse. -/
def readLeniently (found : List Char) : List UInt8 → List Char
  | [] => found.reverse
  | a :: after =>
    match _h : front a after with
    | .char c rest => readLeniently (c :: found) rest
    | .stray _ rest => readLeniently (replacement :: found) rest
    | .cut => (replacement :: found).reverse
termination_by bytes => bytes.length
decreasing_by
  · have := length_of_front_char ‹_›
    simp; omega
  · have := length_of_front_stray ‹_›
    simp; omega

/-- The text that the bytes spell, with one replacement character for each fault. -/
def lenient (bytes : List UInt8) : String := String.ofList (readLeniently [] bytes)

/-- The bytes of a text. -/
def bytes (s : String) : List UInt8 := s.toList.flatMap String.utf8EncodeChar

end CloudRehearsal.Text.Utf8
