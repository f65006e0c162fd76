import CloudRehearsal.Proofs.JsonParse

/-!
Every way to write a JSON string. A character may stand for itself, a short escape or the number of its
unit may stand for it, with digits of either case, and two units stand for a character beyond the first
65536 (`Piece`). `Piece.text?` is the text that pieces stand for; there is none when half of a pair of units
stands alone.

A reader gets that text whatever the pieces are, and no reader gets a text from anything else
(`string_spelled`, `exists_pieces_of_string`). A string whose text does not matter is read over whether
or not it has one (`skipString_spelled`).
-/
namespace CloudRehearsal.Json

open Text

/-! ## Spaces -/

/-- A character that may stand between any two parts. -/
inductive Space where
  | blank
  | newline
  | tab
  | carriageReturn
  deriving DecidableEq, Repr

def Space.char : Space → Char
  | blank => ' '
  | newline => '\n'
  | tab => '\t'
  | carriageReturn => '\r'

/-- The text of spaces. -/
def spaces (ws : List Space) : List Char := ws.map Space.char

theorem Space.isSpace_char (w : Space) : isSpace w.char = true := by cases w <;> decide

theorem skipSpaces_spaces (ws : List Space) (cs : List Char) :
    skipSpaces (spaces ws ++ cs) = skipSpaces cs := by
  induction ws with
  | nil => rfl
  | cons w ws ih =>
    rw [spaces, List.map_cons, List.cons_append, ← spaces, ← ih]
    exact List.dropWhile_cons_of_pos w.isSpace_char

theorem atEnd_spaces (ws : List Space) : atEnd (spaces ws) = .ok () := by
  have h := skipSpaces_spaces ws []
  rw [List.append_nil] at h
  rw [atEnd, h]
  rfl

/-! ## Pieces of a string -/

/-- A character that has a letter of its own after a backslash. -/
inductive Escape where
  | quote
  | backslash
  | slash
  | backspace
  | formFeed
  | newline
  | carriageReturn
  | tab
  deriving DecidableEq, Repr

namespace Escape

def letter : Escape → Char
  | quote => '"'
  | backslash => '\\'
  | slash => '/'
  | backspace => 'b'
  | formFeed => 'f'
  | newline => 'n'
  | carriageReturn => 'r'
  | tab => 't'

def char : Escape → Char
  | quote => '"'
  | backslash => '\\'
  | slash => '/'
  | backspace => '\x08'
  | formFeed => '\x0c'
  | newline => '\n'
  | carriageReturn => '\r'
  | tab => '\t'

end Escape

/-- A hexadecimal digit, of either case. -/
structure HexDigit where
  value : Fin 16
  capital : Bool
  deriving DecidableEq, Repr

namespace HexDigit

def char (d : HexDigit) : Char :=
  if d.capital then upper (Nat.digitChar d.value) else Nat.digitChar d.value

theorem digit?_char (d : HexDigit) : digit? 16 d.char = some d.value.val := by
  have h : ∀ (value : Fin 16) (capital : Bool),
      digit? 16 (HexDigit.char ⟨value, capital⟩) = some value.val := by decide
  exact h d.value d.capital

end HexDigit

/-- A unit of 16 bits, in four digits. -/
structure CodeUnit where
  first : HexDigit
  second : HexDigit
  third : HexDigit
  fourth : HexDigit
  deriving DecidableEq, Repr

namespace CodeUnit

def chars (u : CodeUnit) : List Char := [u.first.char, u.second.char, u.third.char, u.fourth.char]

def value (u : CodeUnit) : Nat :=
  ((u.first.value * 16 + u.second.value) * 16 + u.third.value) * 16 + u.fourth.value

/-- The first half of a pair. -/
def isHigh (u : CodeUnit) : Bool := 0xd800 ≤ u.value && u.value ≤ 0xdbff

/-- The second half of a pair. -/
def isLow (u : CodeUnit) : Bool := 0xdc00 ≤ u.value && u.value ≤ 0xdfff

/-- The character that a pair stands for. -/
def pair (high low : CodeUnit) : Char :=
  Char.ofNat (0x10000 + (high.value - 0xd800) * 0x400 + (low.value - 0xdc00))

theorem hexUnit_chars (u : CodeUnit) (rest : List Char) :
    hexUnit (u.chars ++ rest) = .ok (u.value, rest) := by
  have h : numeral? 16 u.chars = some u.value := by
    simp [numeral?, chars, HexDigit.digit?_char, value]
  rw [chars] at h ⊢
  simp only [List.cons_append, List.nil_append, hexUnit, h]

end CodeUnit

/-- A part of a string. -/
inductive Piece where
  /-- A character that stands for itself. -/
  | plain (c : Char) (h : ' ' ≤ c ∧ c ≠ '"' ∧ c ≠ '\\')
  | short (e : Escape)
  | unit (u : CodeUnit)

def Piece.chars : Piece → List Char
  | plain c _ => [c]
  | short e => ['\\', e.letter]
  | unit u => '\\' :: 'u' :: u.chars

/-- A string between quotes, in the spelling of its pieces. -/
def spelled (ps : List Piece) : List Char := '"' :: (ps.flatMap Piece.chars ++ ['"'])

/-- The text that pieces stand for, unless half of a pair stands alone. -/
def Piece.text? : List Piece → Option (List Char)
  | [] => some []
  | .plain c _ :: ps => (text? ps).map (c :: ·)
  | .short e :: ps => (text? ps).map (e.char :: ·)
  | .unit u :: ps =>
    if u.isLow then none
    else if u.isHigh then
      match ps with
      | .unit v :: ps => if v.isLow then (text? ps).map (CodeUnit.pair u v :: ·) else none
      | _ => none
    else (text? ps).map (Char.ofNat u.value :: ·)

theorem Piece.text?_unit_single {u : CodeUnit} (hlow : u.isLow = false) (hhigh : u.isHigh = false)
    (ps : List Piece) :
    Piece.text? (.unit u :: ps) = (Piece.text? ps).map (Char.ofNat u.value :: ·) := by
  rw [Piece.text?.eq_def]
  simp only [hlow, hhigh, Bool.false_eq_true, if_false]

theorem Piece.text?_unit_pair {u v : CodeUnit} (hu : u.isHigh = true) (hv : v.isLow = true)
    (ps : List Piece) :
    Piece.text? (.unit u :: .unit v :: ps) = (Piece.text? ps).map (CodeUnit.pair u v :: ·) := by
  have hlow : u.isLow = false := by
    simp only [CodeUnit.isHigh, CodeUnit.isLow, Bool.and_eq_true, Bool.and_eq_false_iff,
      decide_eq_true_eq, decide_eq_false_iff_not] at hu ⊢
    omega
  rw [Piece.text?.eq_def]
  simp only [hlow, hu, hv, Bool.false_eq_true, if_false, if_true]

theorem spelled_append (ps : List Piece) (rest : List Char) :
    spelled ps ++ rest = '"' :: (ps.flatMap Piece.chars ++ '"' :: rest) := by
  simp [spelled]

/-! ## Reading -/

theorem escape_short (e : Escape) (rest : List Char) :
    escape (e.letter :: rest) = .ok (e.char, rest) := by
  cases e <;> rfl

theorem escape_unit_low {u : CodeUnit} (h : u.isLow = true) (rest : List Char) :
    escape ('u' :: (u.chars ++ rest)) = .error .malformed := by
  simp only [CodeUnit.isLow, Bool.and_eq_true, decide_eq_true_eq] at h
  simp only [escape, unicodeEscape, u.hexUnit_chars, if_pos h]

theorem escape_unit_single {u : CodeUnit} (hlow : u.isLow = false) (hhigh : u.isHigh = false)
    (rest : List Char) : escape ('u' :: (u.chars ++ rest)) = .ok (Char.ofNat u.value, rest) := by
  simp only [CodeUnit.isLow, CodeUnit.isHigh, Bool.and_eq_false_iff, decide_eq_false_iff_not] at hlow hhigh
  have hsingle : u.value < 0xd800 ∨ 0xdbff < u.value := by omega
  simp only [escape, unicodeEscape, u.hexUnit_chars, if_pos hsingle]
  rw [if_neg (by omega)]

/-- The first half of a pair is read with the second. -/
theorem escape_unit_pair {u v : CodeUnit} (hu : u.isHigh = true) (hv : v.isLow = true)
    (rest : List Char) :
    escape ('u' :: (u.chars ++ '\\' :: 'u' :: (v.chars ++ rest))) =
      .ok (CodeUnit.pair u v, rest) := by
  simp only [CodeUnit.isHigh, CodeUnit.isLow, Bool.and_eq_true, decide_eq_true_eq] at hu hv
  have hlow : ¬(0xdc00 ≤ u.value ∧ u.value ≤ 0xdfff) := by omega
  have hpair : ¬(u.value < 0xd800 ∨ 0xdbff < u.value) := by omega
  have hsecond : ¬(v.value < 0xdc00 ∨ 0xdfff < v.value) := by omega
  simp only [escape, unicodeEscape, u.hexUnit_chars, v.hexUnit_chars, if_neg hlow, if_neg hpair,
    if_neg hsecond, CodeUnit.pair]

/-- The second half of a pair comes next. -/
def startsLow : List Piece → Bool
  | .unit v :: _ => v.isLow
  | _ => false

theorem escape_unit_half {u : CodeUnit} {ps : List Piece} (hu : u.isHigh = true)
    (hps : startsLow ps = false) (rest : List Char) :
    escape ('u' :: (u.chars ++ (ps.flatMap Piece.chars ++ '"' :: rest))) = .error .malformed := by
  simp only [CodeUnit.isHigh, Bool.and_eq_true, decide_eq_true_eq] at hu
  have hlow : ¬(0xdc00 ≤ u.value ∧ u.value ≤ 0xdfff) := by omega
  have hpair : ¬(u.value < 0xd800 ∨ 0xdbff < u.value) := by omega
  simp only [escape, unicodeEscape, u.hexUnit_chars, if_neg hlow, if_neg hpair]
  cases ps with
  | nil => rfl
  | cons p ps =>
    cases p with
    | plain c h => simp [Piece.chars, h.2.2]
    | short e => cases e <;> rfl
    | unit v =>
      simp only [startsLow, CodeUnit.isLow, Bool.and_eq_false_iff, decide_eq_false_iff_not] at hps
      have hsecond : v.value < 0xdc00 ∨ 0xdfff < v.value := by omega
      simp only [List.flatMap_cons, Piece.chars, List.cons_append, List.append_assoc,
        v.hexUnit_chars, if_pos hsecond]

theorem stringFrom_plain {c : Char} (h : ' ' ≤ c ∧ c ≠ '"' ∧ c ≠ '\\') (found rest : List Char) :
    stringFrom found (c :: rest) = stringFrom (c :: found) rest := by
  have hcontrol : ¬c.toNat < 0x20 := Nat.not_lt.2 h.1
  rw [stringFrom, if_neg h.2.1, if_neg h.2.2, if_neg hcontrol]

theorem stringFrom_escape_error {rest : List Char} {e : Fault} (h : escape rest = .error e)
    (found : List Char) : stringFrom found ('\\' :: rest) = .error e := by
  rw [stringFrom]
  simp only [Char.reduceEq, ↓reduceIte]
  split <;> rename_i h' <;> rw [h] at h' <;> cases h'
  rfl

theorem stringFrom_spelled (ps : List Piece) (found rest : List Char) :
    stringFrom found (ps.flatMap Piece.chars ++ '"' :: rest) =
      match Piece.text? ps with
      | some cs => .ok (found.reverse ++ cs, rest)
      | none => .error .malformed := by
  fun_induction Piece.text? ps generalizing found with
  | case1 => simp [stringFrom]
  | case2 c h ps ih =>
    rw [List.flatMap_cons, List.append_assoc, Piece.chars, List.singleton_append,
      stringFrom_plain h, ih]
    cases Piece.text? ps <;> simp
  | case3 e ps ih =>
    rw [List.flatMap_cons, List.append_assoc, Piece.chars, List.cons_append, List.singleton_append,
      stringFrom_escape (escape_short e _), ih]
    cases Piece.text? ps <;> simp
  | case4 u ps hlow =>
    rw [List.flatMap_cons, List.append_assoc, Piece.chars, List.cons_append, List.cons_append,
      stringFrom_escape_error (escape_unit_low hlow _)]
  | case5 u hlow hhigh v ps hv ih =>
    have hpair := escape_unit_pair hhigh hv (ps.flatMap Piece.chars ++ '"' :: rest)
    simp only [List.flatMap_cons, List.append_assoc, Piece.chars, List.cons_append]
    rw [stringFrom_escape hpair, ih]
    cases Piece.text? ps <;> simp
  | case6 u hlow hhigh v ps hv =>
    have hstart : startsLow (.unit v :: ps) = false := eq_false_of_ne_true hv
    have hhalf := escape_unit_half hhigh hstart rest
    rw [List.flatMap_cons, List.append_assoc, Piece.chars, List.cons_append, List.cons_append,
      stringFrom_escape_error hhalf]
  | case7 u ps hlow hhigh hps =>
    have hstart : startsLow ps = false := by
      unfold startsLow
      split
      · exact absurd rfl (hps _ _)
      · rfl
    rw [List.flatMap_cons, List.append_assoc, Piece.chars, List.cons_append, List.cons_append,
      stringFrom_escape_error (escape_unit_half hhigh hstart rest)]
  | case8 u ps hlow hhigh ih =>
    have hsingle := escape_unit_single (eq_false_of_ne_true hlow)
      (eq_false_of_ne_true hhigh) (ps.flatMap Piece.chars ++ '"' :: rest)
    rw [List.flatMap_cons, List.append_assoc, Piece.chars, List.cons_append, List.cons_append,
      stringFrom_escape hsingle, ih]
    cases Piece.text? ps <;> simp

/-- **A string is read for its text**, in whatever spelling, and is refused when it has none. The quote
in front has been read. -/
theorem string_spelled (ps : List Piece) (rest : List Char) :
    string (ps.flatMap Piece.chars ++ '"' :: rest) =
      match Piece.text? ps with
      | some cs => .ok (String.ofList cs, rest)
      | none => .error .malformed := by
  rw [string, stringFrom_spelled]
  cases Piece.text? ps <;> rfl

theorem string_spelled_eq_ok_iff {ps : List Piece} {rest rest' : List Char} {s : String} :
    string (ps.flatMap Piece.chars ++ '"' :: rest) = .ok (s, rest') ↔
      Piece.text? ps = some s.toList ∧ rest' = rest := by
  rw [string_spelled]
  cases Piece.text? ps with
  | none => simp
  | some cs => simp [← String.toList_inj, eq_comm]

/-! ## What is read is spelled -/

theorem exists_spaces (cs : List Char) : ∃ ws, spaces ws ++ skipSpaces cs = cs := by
  induction cs with
  | nil => exact ⟨[], rfl⟩
  | cons c cs ih =>
    by_cases hc : isSpace c = true
    · obtain ⟨ws, hws⟩ := ih
      have hskip : skipSpaces (c :: cs) = skipSpaces cs := List.dropWhile_cons_of_pos hc
      obtain ⟨w, rfl⟩ : ∃ w : Space, w.char = c := by
        simp only [isSpace, Bool.or_eq_true, beq_iff_eq] at hc
        rcases hc with ((rfl | rfl) | rfl) | rfl
        · exact ⟨.blank, rfl⟩
        · exact ⟨.newline, rfl⟩
        · exact ⟨.tab, rfl⟩
        · exact ⟨.carriageReturn, rfl⟩
      refine ⟨w :: ws, ?_⟩
      rw [hskip, spaces, List.map_cons, List.cons_append, ← spaces, hws]
    · exact ⟨[], skipSpaces_cons (eq_false_of_ne_true hc) cs⟩

theorem spaces_of_atEnd {cs : List Char} (h : atEnd cs = .ok ()) : ∃ ws, cs = spaces ws := by
  obtain ⟨ws, hws⟩ := exists_spaces cs
  refine ⟨ws, ?_⟩
  unfold atEnd at h
  split at h
  · rename_i hskip
    rw [List.isEmpty_iff.1 hskip, List.append_nil] at hws
    exact hws.symm
  · cases h

theorem HexDigit.exists_of_digit? {c : Char} {n : Nat} (h : digit? 16 c = some n) :
    ∃ d : HexDigit, d.char = c ∧ d.value.val = n := by
  have hascii : ∀ n < 0x80, ∀ value : Fin 16, digit? 16 (Char.ofNat n) = some value.val →
      ∃ capital, HexDigit.char ⟨value, capital⟩ = Char.ofNat n := by decide +kernel
  have hbelow := Option.filter_eq_some_iff.1 h
  have hn : n < 16 := of_decide_eq_true hbelow.2
  have hc : c.toNat < 0x80 := by
    have hvalue := hbelow.1
    unfold digitValue at hvalue
    dsimp only at hvalue
    split at hvalue
    · omega
    split at hvalue
    · omega
    split at hvalue
    · omega
    · cases hvalue
  obtain ⟨capital, hchar⟩ := hascii c.toNat hc ⟨n, hn⟩ (by rwa [Char.ofNat_toNat])
  exact ⟨⟨⟨n, hn⟩, capital⟩, by rw [hchar, Char.ofNat_toNat], rfl⟩

theorem CodeUnit.exists_of_hexUnit {cs rest : List Char} {n : Nat} (h : hexUnit cs = .ok (n, rest)) :
    ∃ u : CodeUnit, u.chars ++ rest = cs ∧ u.value = n := by
  unfold hexUnit at h
  split at h
  · split at h
    · rename_i hm
      cases h
      simp only [numeral?, List.foldl_cons, List.foldl_nil, bind, pure, Option.bind_eq_some_iff,
        Option.some.injEq] at hm
      obtain ⟨z, ⟨y, ⟨x, ⟨o, rfl, w, hw, rfl⟩, x', hx, rfl⟩, y', hy, rfl⟩, z', hz, rfl⟩ := hm
      obtain ⟨first, rfl, rfl⟩ := HexDigit.exists_of_digit? hw
      obtain ⟨second, rfl, rfl⟩ := HexDigit.exists_of_digit? hx
      obtain ⟨third, rfl, rfl⟩ := HexDigit.exists_of_digit? hy
      obtain ⟨fourth, rfl, rfl⟩ := HexDigit.exists_of_digit? hz
      exact ⟨⟨first, second, third, fourth⟩, rfl, by simp [value]⟩
    · cases h
  · cases h

theorem Escape.exists_of_plainEscape? {c d : Char} (h : plainEscape? c = some d) :
    ∃ e : Escape, e.letter = c ∧ e.char = d := by
  unfold plainEscape? at h
  split at h
  · subst c; cases h; exact ⟨.quote, rfl, rfl⟩
  split at h
  · subst c; cases h; exact ⟨.backslash, rfl, rfl⟩
  split at h
  · subst c; cases h; exact ⟨.slash, rfl, rfl⟩
  split at h
  · subst c; cases h; exact ⟨.backspace, rfl, rfl⟩
  split at h
  · subst c; cases h; exact ⟨.formFeed, rfl, rfl⟩
  split at h
  · subst c; cases h; exact ⟨.newline, rfl, rfl⟩
  split at h
  · subst c; cases h; exact ⟨.carriageReturn, rfl, rfl⟩
  split at h
  · subst c; cases h; exact ⟨.tab, rfl, rfl⟩
  · cases h

/-- What is read after a backslash is one piece, or two that are units of a pair. -/
theorem exists_pieces_of_unicodeEscape {cs rest : List Char} {c : Char}
    (h : unicodeEscape cs = .ok (c, rest)) :
    ∃ ps : List Piece, ps.flatMap Piece.chars ++ rest = '\\' :: 'u' :: cs ∧
      ∀ qs, Piece.text? (ps ++ qs) = (Piece.text? qs).map (c :: ·) := by
  unfold unicodeEscape at h
  split at h
  · cases h
  rename_i n after hn
  obtain ⟨u, rfl, rfl⟩ := CodeUnit.exists_of_hexUnit hn
  split at h
  · cases h
  rename_i hlow
  split at h
  · rename_i hsingle
    simp only [Except.ok.injEq, Prod.mk.injEq] at h
    obtain ⟨rfl, rfl⟩ := h
    refine ⟨[.unit u], by simp [Piece.chars], Piece.text?_unit_single ?_ ?_⟩
    · simp only [CodeUnit.isLow, Bool.and_eq_false_iff, decide_eq_false_iff_not]
      omega
    · simp only [CodeUnit.isHigh, Bool.and_eq_false_iff, decide_eq_false_iff_not]
      omega
  rename_i hpair
  split at h
  · cases h
  · cases h
  · split at h
    · cases h
    rename_i m hm
    obtain ⟨v, rfl, rfl⟩ := CodeUnit.exists_of_hexUnit hm
    split at h
    · cases h
    rename_i hsecond
    simp only [Except.ok.injEq, Prod.mk.injEq] at h
    obtain ⟨rfl, rfl⟩ := h
    refine ⟨[.unit u, .unit v], by simp [Piece.chars], Piece.text?_unit_pair ?_ ?_⟩
    · simp only [CodeUnit.isHigh, Bool.and_eq_true, decide_eq_true_eq]
      omega
    · simp only [CodeUnit.isLow, Bool.and_eq_true, decide_eq_true_eq]
      omega
  · cases h

theorem exists_pieces_of_escape {cs rest : List Char} {c : Char} (h : escape cs = .ok (c, rest)) :
    ∃ ps : List Piece, ps.flatMap Piece.chars ++ rest = '\\' :: cs ∧
      ∀ qs, Piece.text? (ps ++ qs) = (Piece.text? qs).map (c :: ·) := by
  unfold escape at h
  split at h
  · cases h
  · exact exists_pieces_of_unicodeEscape h
  · split at h
    · rename_i hd
      cases h
      obtain ⟨e, rfl, rfl⟩ := Escape.exists_of_plainEscape? hd
      exact ⟨[.short e], rfl, fun qs => by rw [List.singleton_append, Piece.text?]⟩
    · cases h

theorem exists_pieces_of_stringFrom {found cs text rest : List Char}
    (h : stringFrom found cs = .ok (text, rest)) :
    ∃ ps after, ps.flatMap Piece.chars ++ '"' :: rest = cs ∧ Piece.text? ps = some after ∧
      text = found.reverse ++ after := by
  fun_induction stringFrom found cs with
  | case1 => cases h
  | case2 =>
    cases h
    exact ⟨[], [], rfl, by rw [Piece.text?], by rw [List.append_nil]⟩
  | case3 => cases h
  | case4 found rest' c _ he _ ih =>
    obtain ⟨ps, hps, hmap⟩ := exists_pieces_of_escape he
    obtain ⟨qs, after, hqs, htext, rfl⟩ := ih h
    refine ⟨ps ++ qs, c :: after, ?_, ?_, by simp⟩
    · rw [List.flatMap_append, List.append_assoc, hqs, hps]
    · rw [hmap, htext, Option.map_some]
  | case5 => cases h
  | case6 found c rest' hquote hbackslash hcontrol ih =>
    obtain ⟨ps, after, hps, htext, rfl⟩ := ih h
    have hplain : ' ' ≤ c := Nat.not_lt.1 hcontrol
    refine ⟨.plain c ⟨hplain, hquote, hbackslash⟩ :: ps, c :: after, ?_, ?_, by simp⟩
    · rw [List.flatMap_cons, List.append_assoc, hps]
      rfl
    · rw [Piece.text?, htext, Option.map_some]

/-- **What is read as a string is spelled**, and is read for the text of its pieces. -/
theorem exists_pieces_of_string {cs rest : List Char} {s : String} (h : string cs = .ok (s, rest)) :
    ∃ ps, ps.flatMap Piece.chars ++ '"' :: rest = cs ∧ Piece.text? ps = some s.toList := by
  unfold string at h
  cases hs : stringFrom [] cs with
  | error e => rw [hs] at h; cases h
  | ok p =>
    rw [hs] at h
    cases h
    obtain ⟨ps, after, hps, htext, hafter⟩ := exists_pieces_of_stringFrom hs
    exact ⟨ps, hps, by rw [htext, String.toList_ofList, hafter]; rfl⟩

theorem exists_spelled_written (s : String) :
    ∃ ps, spelled ps = written s ∧ Piece.text? ps = some s.toList := by
  obtain ⟨ps, hps, htext⟩ := exists_pieces_of_string (string_written s [])
  exact ⟨ps, congrArg ('"' :: ·) hps, htext⟩

/-! ## Reading over -/

theorem skipEscape_short (e : Escape) (rest : List Char) :
    skipEscape (e.letter :: rest) = .ok rest := by
  cases e <;> rfl

theorem skipEscape_unit (u : CodeUnit) (rest : List Char) :
    skipEscape ('u' :: (u.chars ++ rest)) = .ok rest := by
  simp only [skipEscape, u.hexUnit_chars]
  rfl

/-- **A string is read over**, whether it has a text or not. -/
theorem skipString_spelled (ps : List Piece) (rest : List Char) :
    skipString (ps.flatMap Piece.chars ++ '"' :: rest) = .ok rest := by
  induction ps with
  | nil => simp [skipString]
  | cons p ps ih =>
    rw [List.flatMap_cons, List.append_assoc]
    cases p with
    | plain c h =>
      have hcontrol : ¬c.toNat < 0x20 := Nat.not_lt.2 h.1
      rw [Piece.chars, List.singleton_append, skipString, if_neg h.2.1, if_neg h.2.2,
        if_neg hcontrol, ih]
    | short e =>
      rw [Piece.chars, List.cons_append, List.singleton_append,
        skipString_of_skipEscape (skipEscape_short e _), ih]
    | unit u =>
      rw [Piece.chars, List.cons_append, List.cons_append,
        skipString_of_skipEscape (skipEscape_unit u _), ih]

end CloudRehearsal.Json
