import CloudRehearsal.Json.Record
import CloudRehearsal.Json.Value
import Mathlib.Algebra.Group.Nat.Defs

/-!
Compact text as the steps of the readers meet it. The reader of strings takes every escape that the
writer makes back to the character that it stands for, and stops at the quote that the writer has put
last; so whatever follows a written string, the string is read back (`Json.string_written`).

Between the parts the writer puts commas and colons and no spaces. `Json.itemsOn` and `Json.membersOn`
are the text of a list and of a record from any point on, and say where the commas are.

Everything below the space is escaped, so compact text is one line (`Json.space_le_of_mem_compact`).
-/
namespace CloudRehearsal

open Text

/-! ## Hexadecimal digits -/

theorem Text.digit?_digitChar : ∀ d < 16, digit? 16 (Nat.digitChar d) = some d := by decide

theorem Text.numeral?_concat (base : Nat) (cs : List Char) (c : Char) :
    numeral? base (cs ++ [c]) =
      (numeral? base cs).bind fun n => (digit? base c).map fun d => n * base + d := by
  unfold numeral?
  rw [List.foldl_append, List.foldl_cons, List.foldl_nil]
  cases List.foldl _ (some 0) cs with
  | none => rfl
  | some n => cases digit? base c <;> rfl

theorem Text.numeral?_hexPadded (width n : Nat) :
    numeral? 16 (hexPadded width n) = some (n % 16 ^ width) := by
  induction width generalizing n with
  | zero => simp [hexPadded, numeral?, Nat.mod_one]
  | succ width ih =>
    have hd := digit?_digitChar (n % 16) (Nat.mod_lt n (by decide))
    rw [hexPadded, numeral?_concat, ih, hd]
    simp only [Option.bind_some, Option.map_some, Option.some.injEq]
    rw [Nat.pow_succ', Nat.mod_mul]
    omega

namespace Json

/-! ## One character -/

theorem hexUnit_hexPadded {n : Nat} (h : n < 16 ^ 4) (rest : List Char) :
    hexUnit (hexPadded 4 n ++ rest) = .ok (n, rest) := by
  have hn := numeral?_hexPadded 4 n
  rw [Nat.mod_eq_of_lt h] at hn
  simp only [hexPadded, List.nil_append, List.cons_append] at hn ⊢
  simp only [hexUnit, hn]

/-- A control is read back from its number. -/
theorem escape_hexPadded {c : Char} (h : c.toNat < 0x20) (rest : List Char) :
    escape ('u' :: (hexPadded 4 c.toNat ++ rest)) = .ok (c, rest) := by
  have hu := hexUnit_hexPadded (show c.toNat < 16 ^ 4 by omega) rest
  have hlow : ¬(0xdc00 ≤ c.toNat ∧ c.toNat ≤ 0xdfff) := by omega
  have hplain : c.toNat < 0xd800 ∨ 0xdbff < c.toNat := by omega
  simp only [escape, unicodeEscape, hu, if_neg hlow, if_pos hplain, Char.ofNat_toNat]

/-- What follows a backslash is read for the character that it stands for. -/
theorem stringFrom_escape {rest rest' : List Char} {c : Char} (h : escape rest = .ok (c, rest'))
    (found : List Char) : stringFrom found ('\\' :: rest) = stringFrom (c :: found) rest' := by
  rw [stringFrom]
  simp only [Char.reduceEq, ↓reduceIte]
  split
  next e he => rw [h] at he; cases he
  next d r hd =>
    rw [h] at hd
    cases hd
    rfl

theorem space_le_digitChar : ∀ d < 16, ' ' ≤ Nat.digitChar d := by decide

theorem space_le_of_mem_hexPadded {width n : Nat} {c : Char} (h : c ∈ hexPadded width n) :
    ' ' ≤ c := by
  obtain ⟨d, hd, rfl⟩ := exists_digit_of_mem_hexPadded h
  exact space_le_digitChar d hd

/-- A character stands for itself, or a backslash and a code stand for it. -/
theorem escaped_cases (c : Char) :
    (escaped c = [c] ∧ c ≠ '"' ∧ c ≠ '\\' ∧ ¬c.toNat < 0x20) ∨
      ∃ code, escaped c = '\\' :: code ∧ (∀ d ∈ code, ' ' ≤ d) ∧
        ∀ rest, escape (code ++ rest) = .ok (c, rest) := by
  unfold escaped
  -- the short escapes
  iterate 7
    split
    · subst_vars
      exact .inr ⟨_, rfl, by simp, fun _ => rfl⟩
  split
  · rename_i hcontrol
    refine .inr ⟨'u' :: hexPadded 4 c.toNat, rfl, ?_, fun rest => escape_hexPadded hcontrol rest⟩
    intro d hd
    rcases List.mem_cons.1 hd with rfl | hd
    · decide
    · exact space_le_of_mem_hexPadded hd
  · rename_i hquote hbackslash _ _ _ _ _ hcontrol
    exact .inl ⟨rfl, hquote, hbackslash, hcontrol⟩

theorem stringFrom_escaped (found : List Char) (c : Char) (rest : List Char) :
    stringFrom found (escaped c ++ rest) = stringFrom (c :: found) rest := by
  rcases escaped_cases c with ⟨he, hquote, hbackslash, hcontrol⟩ | ⟨code, he, -, hcode⟩
  · rw [he, List.singleton_append, stringFrom, if_neg hquote, if_neg hbackslash, if_neg hcontrol]
  · rw [he, List.cons_append, stringFrom_escape (hcode rest)]

/-! ## A whole string -/

theorem stringFrom_flatMap_escaped (found cs rest : List Char) :
    stringFrom found (cs.flatMap escaped ++ '"' :: rest) = .ok (found.reverse ++ cs, rest) := by
  induction cs generalizing found with
  | nil => simp [stringFrom]
  | cons c cs ih =>
    rw [List.flatMap_cons, List.append_assoc, stringFrom_escaped, ih]
    simp

/-- **A written string is read back**, whatever follows it. The quote in front has been read. -/
theorem string_written (s : String) (rest : List Char) :
    string (s.toList.flatMap escaped ++ '"' :: rest) = .ok (s, rest) := by
  unfold string
  rw [stringFrom_flatMap_escaped]
  simp [Except.map]

theorem written_append (s : String) (rest : List Char) :
    written s ++ rest = '"' :: (s.toList.flatMap escaped ++ '"' :: rest) := by
  simp [written]

/-! ## Between the parts -/

theorem skipSpaces_cons {c : Char} (h : isSpace c = false) (cs : List Char) :
    skipSpaces (c :: cs) = c :: cs := by
  unfold skipSpaces
  rw [List.dropWhile_cons_of_neg]
  simp [h]

/-- What separates an item or a member from those before it. -/
def comma (first : Bool) : List Char := if first then [] else [',']

theorem next_closed {close : Char} (h : isSpace close = false) (first : Bool) (rest : List Char) :
    next close first (close :: rest) = .ok (.closed rest) := by
  simp [next, skipSpaces_cons h]

theorem next_item {close c : Char} (hclose : close ≠ ',') (hc : isSpace c = false)
    (hne : c ≠ close) (first : Bool) (rest : List Char) :
    next close first (comma first ++ c :: rest) = .ok (.item (c :: rest)) := by
  cases first with
  | true => simp [comma, next, skipSpaces_cons hc, hne]
  | false =>
    have hcomma : isSpace ',' = false := by decide
    simp [comma, next, skipSpaces_cons hcomma, skipSpaces_cons hc, hne, hclose.symm]

theorem colon_cons (rest : List Char) : colon (':' :: rest) = .ok rest := by
  have h : isSpace ':' = false := by decide
  simp [colon, skipSpaces_cons h]

theorem name_written (key : String) (rest : List Char) :
    name (written key ++ rest) = .ok (key, rest) := by
  rw [written_append]
  exact string_written key rest

/-! ## Lists and records -/

/-- The text of a list from an item on: each item after a comma, unless it is the first. -/
def itemsOn (first : Bool) : List Json → List Char
  | [] => [']']
  | v :: vs => comma first ++ (compactChars v ++ itemsOn false vs)

/-- The text of a record from a member on. -/
def membersOn (first : Bool) : List (String × Json) → List Char
  | [] => ['\x7d']
  | (key, v) :: ms => comma first ++ (written key ++ ':' :: (compactChars v ++ membersOn false ms))

theorem compactItems_eq (vs : List Json) : compactItems vs = itemsOn true vs := by
  induction vs with
  | nil => simp [compactItems, itemsOn]
  | cons v vs ih =>
    cases vs with
    | nil => simp [compactItems, itemsOn, comma]
    | cons w ws =>
      rw [compactItems, ih]
      · simp [itemsOn, comma]
      · simp

theorem compactMembers_eq (ms : List (String × Json)) : compactMembers ms = membersOn true ms := by
  induction ms with
  | nil => simp [compactMembers, membersOn]
  | cons m ms ih =>
    obtain ⟨key, v⟩ := m
    cases ms with
    | nil => simp [compactMembers, membersOn, comma]
    | cons m' ms =>
      obtain ⟨key', v'⟩ := m'
      rw [compactMembers, ih]
      · simp [membersOn, comma]
      · simp

/-- Every value starts with a character that is no space and closes nothing. -/
theorem compactChars_eq_cons (v : Json) :
    ∃ c cs, compactChars v = c :: cs ∧ isSpace c = false ∧ c ≠ ']' := by
  cases v with
  | null => exact ⟨_, _, by rw [compactChars], by decide, by decide⟩
  | bool b => cases b <;> exact ⟨_, _, by rw [compactChars], by decide, by decide⟩
  | text s => exact ⟨_, _, by rw [compactChars, written], by decide, by decide⟩
  | list vs => exact ⟨_, _, by rw [compactChars], by decide, by decide⟩
  | record ms => exact ⟨_, _, by rw [compactChars], by decide, by decide⟩

theorem next_compactChars (first : Bool) (v : Json) (rest : List Char) :
    next ']' first (comma first ++ (compactChars v ++ rest)) = .ok (.item (compactChars v ++ rest)) := by
  obtain ⟨c, cs, hv, hc, hne⟩ := compactChars_eq_cons v
  rw [hv, List.cons_append]
  exact next_item (by decide) hc hne first _

theorem next_written (first : Bool) (key : String) (rest : List Char) :
    next '\x7d' first (comma first ++ (written key ++ rest)) = .ok (.item (written key ++ rest)) := by
  rw [written_append]
  exact next_item (by decide) (by decide) (by decide) first _

/-! ## No line break -/

theorem space_le_of_mem_escaped {c d : Char} (h : d ∈ escaped c) : ' ' ≤ d := by
  rcases escaped_cases c with ⟨he, -, -, hcontrol⟩ | ⟨code, he, hcode, -⟩
  · rw [he, List.mem_singleton] at h
    subst h
    have hc : (' ' : Char).toNat ≤ d.toNat := by
      have hspace : (' ' : Char).toNat = 0x20 := rfl
      omega
    exact hc
  · rw [he, List.mem_cons] at h
    rcases h with rfl | h
    · decide
    · exact hcode d h

theorem space_le_of_mem_written {s : String} {c : Char} (h : c ∈ written s) : ' ' ≤ c := by
  simp only [written, List.mem_cons, List.mem_append, List.mem_flatMap, List.not_mem_nil,
    or_false] at h
  rcases h with rfl | ⟨d, -, h⟩ | rfl
  · decide
  · exact space_le_of_mem_escaped h
  · decide

theorem space_le_of_mem_comma {first : Bool} {c : Char} (h : c ∈ comma first) : ' ' ≤ c := by
  revert c
  cases first <;> simp [comma]

mutual

theorem space_le_of_mem_compactChars : ∀ (v : Json), ∀ c ∈ compactChars v, ' ' ≤ c
  | .null => by simp [compactChars]
  | .bool true => by simp [compactChars]
  | .bool false => by simp [compactChars]
  | .text s => by
    intro c h
    rw [compactChars] at h
    exact space_le_of_mem_written h
  | .list vs => by
    intro c h
    rw [compactChars, compactItems_eq, List.mem_cons] at h
    rcases h with rfl | h
    · decide
    · exact space_le_of_mem_itemsOn true vs c h
  | .record ms => by
    intro c h
    rw [compactChars, compactMembers_eq, List.mem_cons] at h
    rcases h with rfl | h
    · decide
    · exact space_le_of_mem_membersOn true ms c h

theorem space_le_of_mem_itemsOn (first : Bool) : ∀ (vs : List Json), ∀ c ∈ itemsOn first vs, ' ' ≤ c
  | [] => by simp [itemsOn]
  | v :: vs => by
    intro c h
    simp only [itemsOn, List.mem_append] at h
    rcases h with h | h | h
    · exact space_le_of_mem_comma h
    · exact space_le_of_mem_compactChars v c h
    · exact space_le_of_mem_itemsOn false vs c h

theorem space_le_of_mem_membersOn (first : Bool) :
    ∀ (ms : List (String × Json)), ∀ c ∈ membersOn first ms, ' ' ≤ c
  | [] => by simp [membersOn]
  | (key, v) :: ms => by
    intro c h
    simp only [membersOn, List.mem_append, List.mem_cons] at h
    rcases h with h | h | rfl | h | h
    · exact space_le_of_mem_comma h
    · exact space_le_of_mem_written h
    · decide
    · exact space_le_of_mem_compactChars v c h
    · exact space_le_of_mem_membersOn false ms c h

end

theorem space_le_of_mem_compact {v : Json} {c : Char} (h : c ∈ v.compact.toList) : ' ' ≤ c := by
  rw [compact, String.toList_ofList] at h
  exact space_le_of_mem_compactChars v c h

end Json

end CloudRehearsal
