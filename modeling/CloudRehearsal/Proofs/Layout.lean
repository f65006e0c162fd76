import CloudRehearsal.Proofs.Spelling

/-!
Every way to lay out a JSON value. A `Layout` is a value with all that its text leaves open: the spaces
between any two parts, the spelling of strings, the order of members, and how numbers are put. What it
stands for is `Layout.value?`; numbers are no values of this library, and a string without a text is
none.

Any of them is read over to the place where it ends (`skipValue_chars`), whatever it stands for and
however deep it is nested.
-/
namespace CloudRehearsal.Json

open Text

/-! ## Numbers -/

/-- Decimal digits, at least one. -/
structure Digits where
  first : Fin 10
  more : List (Fin 10)
  deriving DecidableEq, Repr

def Digits.chars (d : Digits) : List Char :=
  Nat.digitChar d.first :: d.more.map fun n : Fin 10 => Nat.digitChar n

/-- The exponent of a number. -/
structure Exponent where
  capital : Bool
  /-- The sign, if there is one: a minus or a plus. -/
  sign : Option Bool
  digits : Digits
  deriving DecidableEq, Repr

namespace Exponent

def signChars : Option Bool → List Char
  | some true => ['-']
  | some false => ['+']
  | none => []

def chars (e : Exponent) : List Char :=
  (if e.capital then 'E' else 'e') :: (signChars e.sign ++ e.digits.chars)

end Exponent

/-- A number. -/
structure Numeral where
  negative : Bool
  whole : Digits
  fraction : Option Digits
  exponent : Option Exponent
  /-- A zero in front stands alone. -/
  shortest : whole.first = 0 → whole.more = []

namespace Numeral

def fractionChars : Option Digits → List Char
  | some d => '.' :: d.chars
  | none => []

def exponentChars : Option Exponent → List Char
  | some e => e.chars
  | none => []

/-- The number after its sign. -/
def unsignedChars (n : Numeral) : List Char :=
  n.whole.chars ++ (fractionChars n.fraction ++ exponentChars n.exponent)

def chars (n : Numeral) : List Char :=
  if n.negative then '-' :: n.unsignedChars else n.unsignedChars

end Numeral

/-- The text does not go on with what stands before it: it ends, or a space or the end of an item
comes. -/
def Ends (cs : List Char) : Prop :=
  ∀ c ∈ cs.head?, isSpace c = true ∨ c = ',' ∨ c = ']' ∨ c = '\x7d'

/-- No digit comes next. -/
def NoDigit (cs : List Char) : Prop := ∀ c ∈ cs.head?, isDigit c = false

theorem isDigit_digitChar : ∀ n : Fin 10, isDigit (Nat.digitChar n) = true := by decide

theorem Digits.isDigit_of_mem_chars {d : Digits} {c : Char} (h : c ∈ d.chars) : isDigit c = true := by
  simp only [chars, List.mem_cons, List.mem_map] at h
  rcases h with rfl | ⟨n, -, rfl⟩
  · exact isDigit_digitChar d.first
  · exact isDigit_digitChar n

theorem Digits.takeWhile_chars (d : Digits) {rest : List Char} (h : NoDigit rest) :
    (d.chars ++ rest).takeWhile isDigit = d.chars := by
  rw [List.takeWhile_append_of_pos fun _ => isDigit_of_mem_chars]
  cases rest with
  | nil => simp
  | cons c cs => simp [h c rfl]

theorem Digits.dropWhile_chars (d : Digits) {rest : List Char} (h : NoDigit rest) :
    (d.chars ++ rest).dropWhile isDigit = rest := by
  rw [List.dropWhile_append_of_pos fun _ => isDigit_of_mem_chars]
  cases rest with
  | nil => rfl
  | cons c cs => simp [h c rfl]

theorem Ends.ne {cs : List Char} {c : Char} (h : Ends (c :: cs)) :
    isDigit c = false ∧ c ≠ '.' ∧ c ≠ 'e' ∧ c ≠ 'E' := by
  have hc : isSpace c = true ∨ c = ',' ∨ c = ']' ∨ c = '\x7d' := h c rfl
  simp only [isSpace, Bool.or_eq_true, beq_iff_eq] at hc
  rcases hc with (((rfl | rfl) | rfl) | rfl) | rfl | rfl | rfl <;> decide

theorem Ends.noDigit {cs : List Char} (h : Ends cs) : NoDigit cs := by
  intro c hc
  cases cs with
  | nil => cases hc
  | cons d ds =>
    cases hc
    exact h.ne.1

namespace Numeral

theorem exponent_none {rest : List Char} (h : Ends rest) : Json.exponent rest = (none, rest) := by
  cases rest with
  | nil => rfl
  | cons c cs =>
    unfold Json.exponent
    exact if_neg (by simp [h.ne.2.2])

theorem digitChar_ne_sign : ∀ n : Fin 10, Nat.digitChar n ≠ '+' ∧ Nat.digitChar n ≠ '-' := by decide

theorem exponent_some (e : Exponent) {rest : List Char} (h : Ends rest) :
    Json.exponent (e.chars ++ rest) = (some (e.sign == some true, e.digits.chars), rest) := by
  have htake := e.digits.takeWhile_chars h.noDigit
  have hdrop := e.digits.dropWhile_chars h.noDigit
  have hletter : (if e.capital then 'E' else 'e') = 'e' ∨ (if e.capital then 'E' else 'e') = 'E' := by
    cases e.capital <;> simp
  unfold Exponent.chars Json.exponent
  simp only [List.cons_append, if_pos hletter, List.append_assoc]
  rcases hs : e.sign with _ | _ | _
  · have hfirst := digitChar_ne_sign e.digits.first
    have hsign : e.digits.chars ++ rest =
      Nat.digitChar e.digits.first :: (e.digits.chars ++ rest).tail := rfl
    simp only [Exponent.signChars, List.nil_append]
    split
    next hplus => exact absurd (List.cons.inj (hsign.symm.trans hplus)).1 hfirst.1
    next hminus => exact absurd (List.cons.inj (hsign.symm.trans hminus)).1 hfirst.2
    next => simp [htake, hdrop]
  · simp [Exponent.signChars, htake, hdrop]
  · simp [Exponent.signChars, htake, hdrop]

theorem exponent_exponentChars (e : Option Exponent) {rest : List Char} (h : Ends rest) :
    Json.exponent (exponentChars e ++ rest) =
      (e.map fun e => (e.sign == some true, e.digits.chars), rest) := by
  cases e with
  | none => exact exponent_none h
  | some e => exact exponent_some e h

/-- What follows the digits before or after the point. -/
theorem head?_exponentChars (e : Option Exponent) {rest : List Char} (h : Ends rest) :
    ∀ c ∈ (exponentChars e ++ rest).head?, isDigit c = false ∧ c ≠ '.' := by
  intro c hc
  cases e with
  | none =>
    cases rest with
    | nil => cases hc
    | cons d ds =>
      cases hc
      exact ⟨h.ne.1, h.ne.2.1⟩
  | some e =>
    simp only [exponentChars, Exponent.chars, List.cons_append, List.head?_cons, Option.mem_def,
      Option.some.injEq] at hc
    subst hc
    cases e.capital <;> decide

theorem wholePart_chars (n : Numeral) {rest : List Char} (h : NoDigit rest) :
    wholePart (n.whole.chars ++ rest) = (n.whole.chars, rest) := by
  have htake := n.whole.takeWhile_chars h
  have hdrop := n.whole.dropWhile_chars h
  by_cases hzero : n.whole.first = 0
  · have hchars : n.whole.chars = ['0'] := by
      rw [Digits.chars, hzero, n.shortest hzero]
      rfl
    rw [hchars]
    rfl
  · have hne : Nat.digitChar n.whole.first ≠ '0' := by
      have hall : ∀ d : Fin 10, d ≠ 0 → Nat.digitChar d ≠ '0' := by decide
      exact hall _ hzero
    have hfirst : n.whole.chars ++ rest =
      Nat.digitChar n.whole.first :: (n.whole.chars ++ rest).tail := rfl
    unfold wholePart
    split
    next hc => exact absurd (List.cons.inj (hfirst.symm.trans hc)).1 hne
    next => rw [htake, hdrop]

/-- The parts of a number, and what follows it. -/
def parts (n : Numeral) (rest : List Char) : Number :=
  ⟨n.whole.chars, n.fraction.map Digits.chars,
    n.exponent.map fun e => (e.sign == some true, e.digits.chars), rest⟩

theorem withFraction_chars (n : Numeral) {rest : List Char} (h : Ends rest) :
    withFraction n.whole.chars (fractionChars n.fraction ++ (exponentChars n.exponent ++ rest)) =
      n.parts rest := by
  have hexponent := exponent_exponentChars n.exponent h
  have hhead := head?_exponentChars n.exponent h
  rw [parts]
  cases n.fraction with
  | none =>
    simp only [fractionChars, List.nil_append, Option.map_none]
    unfold withFraction
    split
    next hc =>
      rw [hc] at hhead
      exact absurd rfl (hhead '.' rfl).2
    next => rw [withExponent, hexponent]
  | some d =>
    have hdigits : NoDigit (exponentChars n.exponent ++ rest) := fun c hc => (hhead c hc).1
    have htake := d.takeWhile_chars hdigits
    have hdrop := d.dropWhile_chars hdigits
    simp only [fractionChars, List.cons_append, withFraction, htake, hdrop, withExponent, hexponent]
    rfl

theorem number_unsignedChars (n : Numeral) {rest : List Char} (h : Ends rest) :
    number (n.unsignedChars ++ rest) = n.parts rest := by
  have hfollows : NoDigit (fractionChars n.fraction ++ (exponentChars n.exponent ++ rest)) := by
    cases n.fraction with
    | none => exact fun c hc => (head?_exponentChars n.exponent h c hc).1
    | some d =>
      intro c hc
      cases hc
      decide
  rw [number, unsignedChars, List.append_assoc, List.append_assoc, n.wholePart_chars hfollows]
  exact n.withFraction_chars h

theorem fault?_parts (n : Numeral) (atEnd : Fault) {rest : List Char} (h : Ends rest) :
    (n.parts rest).fault? atEnd = none := by
  have hhead : rest.head?.any isDigit = false := by
    cases rest with
    | nil => rfl
    | cons c cs => simp [h.ne.1]
  cases hf : n.fraction <;> cases he : n.exponent <;>
    simp [Number.fault?, parts, hf, he, hhead, Digits.chars]

theorem skipNumber_unsignedChars (n : Numeral) {rest : List Char} (h : Ends rest) :
    skipNumber (n.unsignedChars ++ rest) = .ok rest := by
  rw [skipNumber, n.number_unsignedChars h, n.fault?_parts _ h]
  rfl

theorem digitChar_starts_number : ∀ d : Fin 10,
    Nat.digitChar d ≠ 'n' ∧ Nat.digitChar d ≠ 't' ∧ Nat.digitChar d ≠ 'f' ∧
      Nat.digitChar d ≠ '"' ∧ Nat.digitChar d ≠ '-' ∧ isSpace (Nat.digitChar d) = false ∧
      Nat.digitChar d ≠ '[' ∧ Nat.digitChar d ≠ ']' ∧ Nat.digitChar d ≠ '\x7b' := by decide

end Numeral

/-! ## Values -/

/-- The spaces around an item. -/
structure Gap where
  before : List Space
  after : List Space

/-- The name of a member, and the spaces around the parts of the member. -/
structure Label where
  before : List Space
  name : List Piece
  beforeColon : List Space
  afterColon : List Space
  after : List Space

/-- A value with everything that its text leaves open. -/
inductive Layout where
  | null
  | bool (b : Bool)
  | number (n : Numeral)
  | string (ps : List Piece)
  | list (inside : List Space) (items : List (Gap × Layout))
  | record (inside : List Space) (members : List (Label × Layout))

namespace Layout

mutual

/-- The text of a value. -/
def chars : Layout → List Char
  | null => ['n', 'u', 'l', 'l']
  | bool true => ['t', 'r', 'u', 'e']
  | bool false => ['f', 'a', 'l', 's', 'e']
  | number n => n.chars
  | string ps => spelled ps
  | list inside items => '[' :: (spaces inside ++ itemsChars true items)
  | record inside members => '\x7b' :: (spaces inside ++ membersChars true members)

/-- The text of a list from an item on. -/
def itemsChars (first : Bool) : List (Gap × Layout) → List Char
  | [] => [']']
  | (gap, l) :: items =>
    comma first ++ (spaces gap.before ++ (chars l ++ (spaces gap.after ++ itemsChars false items)))

/-- The text of a record from a member on. -/
def membersChars (first : Bool) : List (Label × Layout) → List Char
  | [] => ['\x7d']
  | (label, l) :: members =>
    comma first ++ (spaces label.before ++ (spelled label.name ++ (spaces label.beforeColon ++
      ':' :: (spaces label.afterColon ++ (chars l ++
        (spaces label.after ++ membersChars false members))))))

end

-- Spaces, a number with all its parts, and a string that is half of a pair.
example : (list [.blank] [
      (⟨[], [.tab]⟩, number ⟨true, ⟨1, []⟩, some ⟨5, [0]⟩, some ⟨true, some false, ⟨3, []⟩⟩, by decide⟩),
      (⟨[], []⟩, string [.short .slash, .unit ⟨⟨13, false⟩, ⟨8, true⟩, ⟨0, false⟩, ⟨0, false⟩⟩])]).chars =
    "[ -1.50E+3\t,\"\\/\\ud800\"]".toList := by decide

mutual

/-- The value that is laid out. -/
def value? : Layout → Option Json
  | null => some .null
  | bool b => some (.bool b)
  | number _ => none
  | string ps => (Piece.text? ps).map fun cs => .text (String.ofList cs)
  | list _ items => (itemValues? items).map .list
  | record _ members => (memberValues? members).map .record

def itemValues? : List (Gap × Layout) → Option (List Json)
  | [] => some []
  | (_, l) :: items => do return (← value? l) :: (← itemValues? items)

def memberValues? : List (Label × Layout) → Option (List (String × Json))
  | [] => some []
  | (label, l) :: members => do
    return (String.ofList (← Piece.text? label.name), ← value? l) :: (← memberValues? members)

end

theorem chars_eq_cons (l : Layout) :
    ∃ c cs, l.chars = c :: cs ∧ isSpace c = false ∧ c ≠ ']' := by
  cases l with
  | null => exact ⟨_, _, by rw [chars], by decide, by decide⟩
  | bool b => cases b <;> exact ⟨_, _, by rw [chars], by decide, by decide⟩
  | number n =>
    rw [chars, Numeral.chars]
    split
    · exact ⟨_, _, rfl, by decide, by decide⟩
    · have h := Numeral.digitChar_starts_number n.whole.first
      exact ⟨_, _, rfl, h.2.2.2.2.2.1, h.2.2.2.2.2.2.2.1⟩
  | string ps => exact ⟨_, _, by rw [chars, spelled], by decide, by decide⟩
  | list inside items => exact ⟨_, _, by rw [chars], by decide, by decide⟩
  | record inside members => exact ⟨_, _, by rw [chars], by decide, by decide⟩

end Layout

/-! ## Between the parts -/

theorem next_spaces (close : Char) (first : Bool) (ws : List Space) (cs : List Char) :
    next close first (spaces ws ++ cs) = next close first cs := by
  simp only [next, skipSpaces_spaces]

/-- The next item or member is where it starts, after its comma and spaces. -/
theorem next_spaced {close c : Char} (hclose : close ≠ ',') (hc : isSpace c = false)
    (hne : c ≠ close) (first : Bool) (ws : List Space) (rest : List Char) :
    next close first (comma first ++ (spaces ws ++ c :: rest)) = .ok (.item (c :: rest)) := by
  have hspaces := (skipSpaces_spaces ws (c :: rest)).trans (skipSpaces_cons hc rest)
  cases first with
  | true => simp [comma, next, hspaces, hne]
  | false =>
    have hcomma : isSpace ',' = false := by decide
    simp [comma, next, skipSpaces_cons hcomma, hspaces, hne, hclose.symm]

theorem next_itemsChars_nil (first : Bool) (ws : List Space) (rest : List Char) :
    next ']' first (spaces ws ++ (Layout.itemsChars first [] ++ rest)) = .ok (.closed rest) := by
  rw [next_spaces, Layout.itemsChars]
  exact next_closed (by decide) first rest

theorem next_itemsChars_cons (first : Bool) (ws : List Space) (gap : Gap) (l : Layout)
    (items : List (Gap × Layout)) (rest : List Char) :
    next ']' first (spaces ws ++ (Layout.itemsChars first ((gap, l) :: items) ++ rest)) =
      .ok (.item (l.chars ++ (spaces gap.after ++ (Layout.itemsChars false items ++ rest)))) := by
  obtain ⟨c, cs, hl, hc, hne⟩ := l.chars_eq_cons
  simp only [next_spaces, Layout.itemsChars, List.append_assoc, hl, List.cons_append]
  exact next_spaced (by decide) hc hne first gap.before _

theorem next_membersChars_nil (first : Bool) (ws : List Space) (rest : List Char) :
    next '\x7d' first (spaces ws ++ (Layout.membersChars first [] ++ rest)) = .ok (.closed rest) := by
  rw [next_spaces, Layout.membersChars]
  exact next_closed (by decide) first rest

theorem next_membersChars_cons (first : Bool) (ws : List Space) (label : Label) (l : Layout)
    (members : List (Label × Layout)) (rest : List Char) :
    next '\x7d' first (spaces ws ++ (Layout.membersChars first ((label, l) :: members) ++ rest)) =
      .ok (.item (spelled label.name ++ (spaces label.beforeColon ++
        ':' :: (spaces label.afterColon ++ (l.chars ++
          (spaces label.after ++ (Layout.membersChars false members ++ rest))))))) := by
  simp only [next_spaces, Layout.membersChars, List.append_assoc, List.cons_append, spelled_append]
  exact next_spaced (by decide) (by decide) (by decide) first label.before _

theorem colon_spaces (ws : List Space) (rest : List Char) : colon (spaces ws ++ ':' :: rest) = .ok rest := by
  have h : isSpace ':' = false := by decide
  simp [colon, skipSpaces_spaces, skipSpaces_cons h]

theorem Ends.spaces {cs : List Char} (h : Ends cs) (ws : List Space) : Ends (spaces ws ++ cs) := by
  cases ws with
  | nil => exact h
  | cons w ws =>
    intro c hc
    cases hc
    exact .inl w.isSpace_char

theorem ends_itemsChars (items : List (Gap × Layout)) (rest : List Char) :
    Ends (Layout.itemsChars false items ++ rest) := by
  intro c hc
  cases items with
  | nil =>
    rw [Layout.itemsChars] at hc
    cases hc
    exact .inr (.inr (.inl rfl))
  | cons item items =>
    rw [Layout.itemsChars] at hc
    cases hc
    exact .inr (.inl rfl)

theorem ends_membersChars (members : List (Label × Layout)) (rest : List Char) :
    Ends (Layout.membersChars false members ++ rest) := by
  intro c hc
  cases members with
  | nil =>
    rw [Layout.membersChars] at hc
    cases hc
    exact .inr (.inr (.inr rfl))
  | cons member members =>
    rw [Layout.membersChars] at hc
    cases hc
    exact .inr (.inl rfl)

/-! ## Reading over -/

theorem skipPlain_unsignedChars (n : Numeral) {rest cs : List Char} {c : Char} (h : Ends rest)
    (hc : n.unsignedChars ++ rest = c :: cs) : skipPlain c cs = .ok rest := by
  have hnumber := n.skipNumber_unsignedChars h
  have hfirst : c = Nat.digitChar n.whole.first := (List.cons.inj hc).1.symm
  have hdigit : isDigit c = true := hfirst ▸ isDigit_digitChar n.whole.first
  obtain ⟨hn, ht, hf, hq, hminus, -⟩ := Numeral.digitChar_starts_number n.whole.first
  rw [← hfirst] at hn ht hf hq hminus
  rw [hc] at hnumber
  rw [skipPlain, if_neg hn, if_neg ht, if_neg hf, if_neg hq, if_neg hminus, if_pos hdigit, hnumber]

theorem skipValue_of_skipPlain {cs cs' rest : List Char} {c : Char} (hcs : skipSpaces cs = c :: cs')
    (hlist : c ≠ '[') (hrecord : c ≠ '\x7b') (h : skipPlain c cs' = .ok rest)
    (frames : List Frame) : skipValue frames cs = skipAfter frames rest := by
  rw [skipValue_eq hcs, if_neg hlist, if_neg hrecord, h]

theorem skipValue_number (n : Numeral) {rest : List Char} (h : Ends rest) (frames : List Frame) :
    skipValue frames (n.chars ++ rest) = skipAfter frames rest := by
  rw [Numeral.chars]
  split
  · refine skipValue_of_skipPlain rfl (by decide) (by decide) ?_ frames
    exact n.skipNumber_unsignedChars h
  · obtain ⟨-, -, -, -, -, hspace, hlist, -, hrecord⟩ :=
      Numeral.digitChar_starts_number n.whole.first
    exact skipValue_of_skipPlain (skipSpaces_cons hspace _) hlist hrecord
      (skipPlain_unsignedChars n h rfl) frames

theorem skipName_spelled {cs rest : List Char} {ps : List Piece} {ws : List Space}
    (h : skipSpaces cs = spelled ps ++ (spaces ws ++ ':' :: rest)) : skipName cs = .ok rest := by
  have hcolon : skipSpaces (spaces ws ++ ':' :: rest) = ':' :: rest :=
    (skipSpaces_spaces ws _).trans (skipSpaces_cons (by decide) rest)
  rw [spelled_append] at h
  rw [skipName]
  split <;> rename_i h' <;> rw [h] at h' <;> cases h'
  simp only [if_true, skipString_spelled, hcolon]

mutual

/-- **Any value is read over**, whatever it stands for and however deep it is nested, up to where it
ends. -/
theorem skipValue_chars (l : Layout) (frames : List Frame) {rest : List Char} (h : Ends rest) :
    skipValue frames (l.chars ++ rest) = skipAfter frames rest := by
  cases l with
  | null =>
    rw [Layout.chars]
    exact skipValue_of_skipPlain rfl (by decide) (by decide) rfl frames
  | bool b =>
    cases b <;> rw [Layout.chars] <;>
      exact skipValue_of_skipPlain rfl (by decide) (by decide) rfl frames
  | number n =>
    rw [Layout.chars]
    exact skipValue_number n h frames
  | string ps =>
    have hskip : skipPlain '"' (ps.flatMap Piece.chars ++ '"' :: rest) = .ok rest :=
      skipString_spelled ps rest
    rw [Layout.chars, spelled_append]
    exact skipValue_of_skipPlain rfl (by decide) (by decide) hskip frames
  | list inside items =>
    rw [Layout.chars, List.cons_append, List.append_assoc, skipValue_eq rfl, if_pos rfl]
    exact skipOn_itemsChars true inside items frames rest
  | record inside members =>
    rw [Layout.chars, List.cons_append, List.append_assoc, skipValue_eq rfl, if_neg (by decide),
      if_pos rfl]
    exact skipOn_membersChars true inside members frames rest

theorem skipOn_itemsChars (first : Bool) (ws : List Space) (items : List (Gap × Layout))
    (frames : List Frame) (rest : List Char) :
    skipOn first .list frames (spaces ws ++ (Layout.itemsChars first items ++ rest)) =
      skipAfter frames rest := by
  match items with
  | [] => exact skipOn_of_closed .list (next_itemsChars_nil first ws rest) frames
  | (gap, l) :: items =>
    obtain ⟨spaced, hspaced, hskip⟩ :=
      skipOn_of_item .list (next_itemsChars_cons first ws gap l items rest) frames
    rw [hskip, skipItem, ← skipValue_skipSpaces, hspaced,
      skipValue_chars l _ ((ends_itemsChars items rest).spaces gap.after)]
    exact skipOn_itemsChars false gap.after items frames rest

theorem skipOn_membersChars (first : Bool) (ws : List Space) (members : List (Label × Layout))
    (frames : List Frame) (rest : List Char) :
    skipOn first .record frames (spaces ws ++ (Layout.membersChars first members ++ rest)) =
      skipAfter frames rest := by
  match members with
  | [] => exact skipOn_of_closed .record (next_membersChars_nil first ws rest) frames
  | (label, l) :: members =>
    obtain ⟨spaced, hspaced, hskip⟩ :=
      skipOn_of_item .record (next_membersChars_cons first ws label l members rest) frames
    rw [hskip, skipItem_record (skipName_spelled hspaced), ← skipValue_skipSpaces,
      skipSpaces_spaces, skipValue_skipSpaces,
      skipValue_chars l _ ((ends_membersChars members rest).spaces label.after)]
    exact skipOn_membersChars false label.after members frames rest

end

theorem skip_chars (ws : List Space) (l : Layout) {rest : List Char} (h : Ends rest) :
    skip (spaces ws ++ (l.chars ++ rest)) = .ok rest := by
  rw [skip, ← skipValue_skipSpaces, skipSpaces_spaces, skipValue_skipSpaces, skipValue_chars l [] h,
    skipAfter]

end CloudRehearsal.Json
