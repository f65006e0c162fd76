import CloudRehearsal.Proofs.Layout
import CloudRehearsal.Proofs.ReadBack

/-!
Reading the value of a field from any layout. Each reader gives what is laid out when that has the form
of the field, leaves what follows the value, and fails otherwise (`read_chars_iff`).
-/
namespace CloudRehearsal.Json

/-! ## Strings and null -/

namespace Layout

theorem value?_eq_text_iff {l : Layout} {s : String} :
    l.value? = some (.text s) ↔ ∃ ps, l = .string ps ∧ Piece.text? ps = some s.toList := by
  cases l with
  | string ps =>
    cases h : Piece.text? ps <;> simp [value?, h, ← String.toList_inj]
  | _ => simp [value?]

theorem value?_eq_null_iff {l : Layout} : l.value? = some .null ↔ l = .null := by
  cases l <;> simp [value?]

theorem value?_eq_list_iff {l : Layout} {vs : List Json} :
    l.value? = some (.list vs) ↔
      ∃ inside items, l = .list inside items ∧ itemValues? items = some vs := by
  cases l <;> simp [value?]

/-- A number starts no value that a field holds. -/
theorem number_starts {n : Numeral} {c : Char} {cs : List Char} (h : n.chars = c :: cs) :
    c ≠ 'n' ∧ c ≠ '"' ∧ c ≠ '[' := by
  have hdigit := Numeral.digitChar_starts_number n.whole.first
  rw [Numeral.chars] at h
  split at h
  · cases h
    decide
  · have hc : Nat.digitChar n.whole.first = c := (List.cons.inj h).1
    rw [hc] at hdigit
    exact ⟨hdigit.1, hdigit.2.2.2.1, hdigit.2.2.2.2.2.2.1⟩

/-- The first character says what kind of value it is. -/
theorem starts_string {l : Layout} {cs : List Char} (h : l.chars = '"' :: cs) :
    ∃ ps, l = .string ps := by
  cases l with
  | string ps => exact ⟨ps, rfl⟩
  | number n => exact absurd rfl (number_starts (by rwa [chars] at h)).2.1
  | bool b => cases b <;> simp [chars] at h
  | _ => simp [chars] at h

theorem starts_null {l : Layout} {cs : List Char} (h : l.chars = 'n' :: cs) : l = .null := by
  cases l with
  | null => rfl
  | number n => exact absurd rfl (number_starts (by rwa [chars] at h)).1
  | bool b => cases b <;> simp [chars] at h
  | _ => simp [chars, spelled] at h

theorem starts_list {l : Layout} {cs : List Char} (h : l.chars = '[' :: cs) :
    ∃ inside items, l = .list inside items := by
  cases l with
  | list inside items => exact ⟨inside, items, rfl⟩
  | number n => exact absurd rfl (number_starts (by rwa [chars] at h)).2.2
  | bool b => cases b <;> simp [chars] at h
  | _ => simp [chars, spelled] at h

end Layout

theorem skipSpaces_chars (ws : List Space) (l : Layout) (rest : List Char) :
    skipSpaces (spaces ws ++ (l.chars ++ rest)) = l.chars ++ rest := by
  obtain ⟨c, cs, hl, hc, -⟩ := l.chars_eq_cons
  rw [skipSpaces_spaces, hl, List.cons_append, skipSpaces_cons hc]

theorem readText_chars_iff {l : Layout} (ws : List Space) {rest rest' : List Char} {s : String} :
    readText (spaces ws ++ (l.chars ++ rest)) = .ok (s, rest') ↔
      l.value? = some (.text s) ∧ rest' = rest := by
  obtain ⟨c, cs, hl, -, -⟩ := l.chars_eq_cons
  rw [readText, skipSpaces_chars, hl, List.cons_append]
  by_cases hc : c = '"'
  · subst hc
    obtain ⟨ps, rfl⟩ := Layout.starts_string hl
    have htext : cs ++ rest = ps.flatMap Piece.chars ++ '"' :: rest := by
      have h := spelled_append ps rest
      rw [Layout.chars] at hl
      rw [hl, List.cons_append] at h
      exact (List.cons.inj h).2
    simp only [if_true, htext, string_spelled_eq_ok_iff, Layout.value?_eq_text_iff]
    simp
  · simp only [if_neg hc]
    refine iff_of_false (by simp) ?_
    rintro ⟨hvalue, -⟩
    obtain ⟨ps, rfl, -⟩ := Layout.value?_eq_text_iff.1 hvalue
    rw [Layout.chars, spelled] at hl
    exact hc (List.cons.inj hl).1.symm

theorem readOptional_chars_iff {l : Layout} {ws : List Space} {rest rest' : List Char}
    {s : Option String} :
    readOptional (spaces ws ++ (l.chars ++ rest)) = .ok (s, rest') ↔
      l.value? = some (Json.optional .text s) ∧ rest' = rest := by
  rw [readOptional, skipSpaces_chars]
  split
  next r hr =>
    obtain ⟨c, cs, hl, -, -⟩ := l.chars_eq_cons
    rw [hl, List.cons_append] at hr
    obtain ⟨rfl, rfl⟩ := List.cons.inj hr
    obtain rfl := Layout.starts_null hl
    obtain rfl : cs = ['u', 'l', 'l'] := by
      rw [Layout.chars] at hl
      exact (List.cons.inj hl).2.symm
    have hword : word ['u', 'l', 'l'] (['u', 'l', 'l'] ++ rest) = .ok rest := rfl
    rw [hword]
    cases s <;> simp [Except.map, Layout.value?, Json.optional, eq_comm]
  next hr =>
    have hnull : l ≠ .null := by
      rintro rfl
      exact hr (['u', 'l', 'l'] ++ rest) (by rw [Layout.chars]; rfl)
    rw [map_eq_ok_iff]
    cases s with
    | none => simp [Json.optional, Layout.value?_eq_null_iff, hnull]
    | some s =>
      rw [Json.optional, ← readText_chars_iff ws]
      simp

/-! ## Lists -/

theorem textsFrom_closed {first : Bool} {cs rest : List Char}
    (h : next ']' first cs = .ok (.closed rest)) (found : List String) :
    textsFrom first found cs = .ok (found.reverse, rest) := by
  rw [textsFrom]
  split <;> rename_i h' <;> rw [h] at h' <;> cases h'
  rfl

theorem textsFrom_item {first : Bool} {cs item : List Char}
    (h : next ']' first cs = .ok (.item item)) (found : List String) :
    textsFrom first found cs =
      readText item >>= fun (s, rest) => textsFrom false (s :: found) rest := by
  rw [textsFrom]
  split <;> rename_i h' <;> rw [h] at h' <;> cases h'
  split <;> rename_i h' <;> rw [h'] <;> rfl

namespace Layout

theorem itemValues?_cons_iff {gap : Gap} {l : Layout} {items : List (Gap × Layout)}
    {vs : List Json} :
    itemValues? ((gap, l) :: items) = some vs ↔
      ∃ v vs', l.value? = some v ∧ itemValues? items = some vs' ∧ vs = v :: vs' := by
  simp only [itemValues?, bind, Option.bind_eq_some_iff, pure, Option.some.injEq]
  constructor
  · rintro ⟨v, hv, vs', hvs', rfl⟩
    exact ⟨v, vs', hv, hvs', rfl⟩
  · rintro ⟨v, vs', hv, hvs', rfl⟩
    exact ⟨v, hv, vs', hvs', rfl⟩

end Layout

theorem textsFrom_itemsChars_iff {items : List (Gap × Layout)} {first : Bool} {ws : List Space}
    {found ss : List String} {rest rest' : List Char} :
    textsFrom first found (spaces ws ++ (Layout.itemsChars first items ++ rest)) = .ok (ss, rest') ↔
      ∃ more, Layout.itemValues? items = some (more.map .text) ∧ ss = found.reverse ++ more ∧
        rest' = rest := by
  induction items generalizing first ws found with
  | nil =>
    rw [textsFrom_closed (next_itemsChars_nil first ws rest)]
    simp [Layout.itemValues?, eq_comm]
  | cons item items ih =>
    obtain ⟨gap, l⟩ := item
    rw [textsFrom_item (next_itemsChars_cons first ws gap l items rest), bind_eq_ok_iff]
    constructor
    · rintro ⟨⟨s, after⟩, hread, hmore⟩
      obtain ⟨hvalue, rfl⟩ := (readText_chars_iff []).1 hread
      obtain ⟨more, hvalues, rfl, rfl⟩ := ih.1 hmore
      refine ⟨s :: more, ?_, by simp, rfl⟩
      exact Layout.itemValues?_cons_iff.2 ⟨_, _, hvalue, hvalues, rfl⟩
    · rintro ⟨more, hvalues, rfl, rfl⟩
      obtain ⟨v, vs, hvalue, hvalues, hcons⟩ := Layout.itemValues?_cons_iff.1 hvalues
      obtain ⟨s, more, rfl, rfl, rfl⟩ := List.map_eq_cons_iff.1 hcons
      refine ⟨(s, _), (readText_chars_iff []).2 ⟨hvalue, rfl⟩, ?_⟩
      exact ih.2 ⟨more, hvalues, by simp, rfl⟩

theorem readTexts_chars_iff {l : Layout} {ws : List Space} {rest rest' : List Char}
    {ss : List String} :
    readTexts (spaces ws ++ (l.chars ++ rest)) = .ok (ss, rest') ↔
      l.value? = some (.list (ss.map .text)) ∧ rest' = rest := by
  obtain ⟨c, cs, hl, -, -⟩ := l.chars_eq_cons
  rw [readTexts, skipSpaces_chars, hl, List.cons_append]
  by_cases hc : c = '['
  · subst hc
    obtain ⟨inside, items, rfl⟩ := Layout.starts_list hl
    rw [Layout.chars] at hl
    obtain rfl := (List.cons.inj hl).2
    simp only [if_true, List.append_assoc, textsFrom_itemsChars_iff, Layout.value?_eq_list_iff]
    simp
  · simp only [if_neg hc]
    refine iff_of_false (by simp) ?_
    rintro ⟨hvalue, -⟩
    obtain ⟨inside, items, rfl, -⟩ := Layout.value?_eq_list_iff.1 hvalue
    rw [Layout.chars] at hl
    exact hc (List.cons.inj hl).1.symm

/-- **A field is read for the value that is laid out**, when it has the form of the field. -/
theorem read_chars_iff {f : Form} {l : Layout} (ws : List Space) {rest rest' : List Char}
    {d : Datum} :
    f.read (spaces ws ++ (l.chars ++ rest)) = .ok (d, rest') ↔
      d.form = f ∧ l.value? = some d.toJson ∧ rest' = rest := by
  cases f with
  | text =>
    simp only [Form.read, map_eq_ok_iff, Prod.exists, readText_chars_iff]
    cases d <;> simp [Datum.form, Datum.toJson, @eq_comm _ rest]
  | optional =>
    simp only [Form.read, map_eq_ok_iff, Prod.exists, readOptional_chars_iff]
    cases d <;> simp [Datum.form, Datum.toJson, @eq_comm _ rest]
  | texts =>
    simp only [Form.read, map_eq_ok_iff, Prod.exists, readTexts_chars_iff]
    cases d <;> simp [Datum.form, Datum.toJson, @eq_comm _ rest]

end CloudRehearsal.Json
