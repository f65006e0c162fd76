import CloudRehearsal.Json.Record
import CloudRehearsal.Proofs.WrittenText
import Mathlib.Data.List.DropRight

/-!
Reading any JSON text, and what has been written in particular. `Json.parse` gives the value that a
text holds; it is built from the same steps as the readers of records, and takes what they take:
spaces between any two parts, every escape, any order of members.

Two facts say that it is the reader that is wanted. What it accepts is JSON in the sense of
`Json.skip`, which reads over a value without asking what it is (`Json.valid_of_parse`); and it gives
back every value from its compact text (`Json.parse_compact`).
-/
namespace CloudRehearsal.Json

open Text

/-! ## Reading a value -/

/-- Where a value stands: in a list after other items, or in a record after other members, with a
name. -/
inductive Place where
  | item (before : List Json)
  | member (before : List (String × Json)) (key : String)

/-- The frame that a place is in. -/
def Place.frame : Place → Frame
  | item _ => .list
  | member .. => .record

/-- Reads a value that opens nothing, its first character given. There are no numbers among the
values. -/
def readPlain (c : Char) (rest : List Char) : Except Fault (Json × List Char) :=
  if c = 'n' then (word ['u', 'l', 'l'] rest).map fun rest => (.null, rest)
  else if c = 't' then (word ['r', 'u', 'e'] rest).map fun rest => (.bool true, rest)
  else if c = 'f' then (word ['a', 'l', 's', 'e'] rest).map fun rest => (.bool false, rest)
  else if c = '"' then (string rest).map fun (s, rest) => (.text s, rest)
  else .error (wrongKind c rest)

theorem map_eq_ok {α β : Type} {read : Except Fault α} {f : α → β} {b : β}
    (h : read.map f = .ok b) : ∃ a, read = .ok a ∧ f a = b := by
  cases read with
  | error e => cases h
  | ok a => exact ⟨a, rfl, Except.ok.inj h⟩

theorem map_eq_ok_iff {α β : Type} {read : Except Fault α} {f : α → β} {b : β} :
    read.map f = .ok b ↔ ∃ a, read = .ok a ∧ f a = b := by
  refine ⟨map_eq_ok, ?_⟩
  rintro ⟨a, rfl, rfl⟩
  rfl

theorem bind_eq_ok_iff {α β : Type} {read : Except Fault α} {f : α → Except Fault β} {b : β} :
    read >>= f = .ok b ↔ ∃ a, read = .ok a ∧ f a = .ok b := by
  cases read with
  | error e => exact iff_of_false nofun (by simp)
  | ok a => exact ⟨fun h => ⟨a, rfl, h⟩, fun ⟨_, h, hb⟩ => Except.ok.inj h ▸ hb⟩

theorem length_of_readPlain {c : Char} {cs rest : List Char} {v : Json}
    (h : readPlain c cs = .ok (v, rest)) : rest.length ≤ cs.length := by
  unfold readPlain at h
  iterate 3
    split at h
    · obtain ⟨r, hr, hv⟩ := map_eq_ok h
      cases hv
      exact length_of_word hr
  split at h
  · obtain ⟨p, hp, hv⟩ := map_eq_ok h
    cases hv
    exact Nat.le_of_lt (length_of_string hp)
  · cases h

mutual

/-- Reads a value, and on until the lists and records around it are closed. -/
def readValue (around : List Place) (cs : List Char) : Except Fault (Json × List Char) :=
  match h : skipSpaces cs with
  | [] => .error .endsEarly
  | c :: rest =>
    have : rest.length < cs.length := length_of_skipSpaces_cons h
    if c = '[' then readItem true [] around rest
    else if c = '\x7b' then readMember true [] around rest
    else
      match h' : readPlain c rest with
      | .error e => .error e
      | .ok (v, rest') =>
        have : rest'.length ≤ rest.length := length_of_readPlain h'
        readAfter around v rest'
termination_by 4 * cs.length
decreasing_by all_goals omega

/-- Reads the next item of a list and on, or the end of the list. -/
def readItem (first : Bool) (before : List Json) (around : List Place) (cs : List Char) :
    Except Fault (Json × List Char) :=
  match h : next ']' first cs with
  | .error e => .error e
  | .ok (.closed rest) =>
    have : rest.length < cs.length := length_of_next_closed h
    readAfter around (.list before) rest
  | .ok (.item item) =>
    have : item.length ≤ cs.length := length_of_next_item h
    readValue (.item before :: around) item
termination_by 4 * cs.length + 1
decreasing_by all_goals omega

/-- Reads the next member of a record and on, or the end of the record. -/
def readMember (first : Bool) (before : List (String × Json)) (around : List Place)
    (cs : List Char) : Except Fault (Json × List Char) :=
  match h : next '\x7d' first cs with
  | .error e => .error e
  | .ok (.closed rest) =>
    have : rest.length < cs.length := length_of_next_closed h
    readAfter around (.record before) rest
  | .ok (.item item) =>
    have : item.length ≤ cs.length := length_of_next_item h
    match h' : name item with
    | .error e => .error e
    | .ok (key, afterName) =>
      have : afterName.length < item.length := length_of_name h'
      match h'' : colon afterName with
      | .error e => .error e
      | .ok afterColon =>
        have : afterColon.length < afterName.length := length_of_colon h''
        readValue (.member before key :: around) afterColon
termination_by 4 * cs.length + 1
decreasing_by all_goals omega

/-- Reads on after a value. -/
def readAfter (around : List Place) (v : Json) (cs : List Char) :
    Except Fault (Json × List Char) :=
  match around with
  | [] => .ok (v, cs)
  | .item before :: outer => readItem false (before ++ [v]) outer cs
  | .member before key :: outer => readMember false (before ++ [(key, v)]) outer cs
termination_by 4 * cs.length + 2
decreasing_by all_goals omega

end

/-- The value that a text holds, with nothing after it. -/
def parse (s : String) : Except Fault Json := do
  let (v, rest) ← readValue [] s.toList
  atEnd rest
  return v

/-! ## What is read is JSON -/

theorem skipSpaces_idem (cs : List Char) : skipSpaces (skipSpaces cs) = skipSpaces cs :=
  List.dropWhile_idempotent _ _

theorem skipSpaces_of_eq {cs item : List Char} (h : skipSpaces cs = item) :
    skipSpaces item = item := by
  rw [← h, skipSpaces_idem]

/-- One unit stands for a character, or a pair of units does. -/
theorem unicodeEscape_cases {cs rest : List Char} {c : Char}
    (h : unicodeEscape cs = .ok (c, rest)) :
    ∃ n after, hexUnit cs = .ok (n, after) ∧
      (after = rest ∨ ∃ m second, after = '\\' :: 'u' :: second ∧ hexUnit second = .ok (m, rest)) := by
  unfold unicodeEscape at h
  split at h
  · cases h
  rename_i n after hn
  refine ⟨n, after, hn, ?_⟩
  split at h
  · cases h
  split at h
  · simp only [Except.ok.injEq, Prod.mk.injEq] at h
    exact .inl h.2
  split at h
  · cases h
  · cases h
  · rename_i second
    split at h
    · cases h
    rename_i m rest' hm
    split at h
    · cases h
    simp only [Except.ok.injEq, Prod.mk.injEq] at h
    exact .inr ⟨m, second, rfl, h.2 ▸ hm⟩
  · cases h

theorem skipString_of_skipEscape {cs rest : List Char} (h : skipEscape cs = .ok rest) :
    skipString ('\\' :: cs) = skipString rest := by
  rw [skipString]
  simp only [Char.reduceEq, ↓reduceIte]
  split <;> rename_i h' <;> rw [h] at h' <;> cases h'
  rfl

/-- A pair of units is read over one unit after the other. -/
theorem skipString_of_escape {cs rest : List Char} {c : Char} (h : escape cs = .ok (c, rest)) :
    skipString ('\\' :: cs) = skipString rest := by
  unfold escape at h
  split at h
  · cases h
  · rename_i units
    obtain ⟨n, after, hn, hafter⟩ := unicodeEscape_cases h
    have first : skipEscape ('u' :: units) = .ok after := by simp [skipEscape, hn, Except.map]
    rw [skipString_of_skipEscape first]
    rcases hafter with rfl | ⟨m, second, rfl, hm⟩
    · rfl
    · exact skipString_of_skipEscape (by simp [skipEscape, hm, Except.map])
  · rename_i d ds hu
    split at h
    · rename_i e he
      cases h
      exact skipString_of_skipEscape (by simp [skipEscape, he])
    · cases h

theorem skipString_of_stringFrom {found cs text rest : List Char}
    (h : stringFrom found cs = .ok (text, rest)) : skipString cs = .ok rest := by
  fun_induction stringFrom found cs with
  | case1 => cases h
  | case2 => cases h; simp [skipString]
  | case3 => cases h
  | case4 found rest' _ _ he _ ih => rw [skipString_of_escape he, ih h]
  | case5 => cases h
  | case6 found c rest' hquote hbackslash hcontrol ih =>
    rw [skipString, if_neg hquote, if_neg hbackslash, if_neg hcontrol, ih h]

theorem skipString_of_string {cs rest : List Char} {s : String} (h : string cs = .ok (s, rest)) :
    skipString cs = .ok rest := by
  unfold string at h
  cases hs : stringFrom [] cs with
  | error e => rw [hs] at h; cases h
  | ok p =>
    rw [hs] at h
    cases h
    exact skipString_of_stringFrom hs

theorem skipPlain_of_readPlain {c : Char} {cs rest : List Char} {v : Json}
    (h : readPlain c cs = .ok (v, rest)) : skipPlain c cs = .ok rest := by
  unfold readPlain at h
  unfold skipPlain
  iterate 3
    split at h
    · rename_i hc
      obtain ⟨r, hr, hv⟩ := map_eq_ok h
      cases hv
      rw [if_pos hc, hr]
    rename_i hc
    rw [if_neg hc]
  split at h
  · rename_i hc
    obtain ⟨p, hp, hv⟩ := map_eq_ok h
    cases hv
    rw [if_pos hc, skipString_of_string hp]
  · cases h

theorem skipValue_eq {cs rest : List Char} {c : Char} (h : skipSpaces cs = c :: rest)
    (frames : List Frame) :
    skipValue frames cs =
      if c = '[' then skipFirst .list frames rest
      else if c = '\x7b' then skipFirst .record frames rest
      else
        match skipPlain c rest with
        | .error e => .error e
        | .ok rest' => skipAfter frames rest' := by
  rw [skipValue]
  split <;> rename_i h' <;> rw [h] at h' <;> cases h'
  by_cases hlist : c = '['
  · rw [if_pos hlist, if_pos hlist]
  by_cases hrecord : c = '\x7b'
  · rw [if_neg hlist, if_neg hlist, if_pos hrecord, if_pos hrecord]
  rw [if_neg hlist, if_neg hlist, if_neg hrecord, if_neg hrecord]
  split <;> rename_i hp <;> simp only [hp]

theorem skipValue_nil {cs : List Char} (h : skipSpaces cs = []) (frames : List Frame) :
    skipValue frames cs = .error .endsEarly := by
  rw [skipValue]
  split
  · rfl
  · rename_i h'
    rw [h] at h'
    cases h'

theorem skipValue_skipSpaces (frames : List Frame) (cs : List Char) :
    skipValue frames (skipSpaces cs) = skipValue frames cs := by
  cases h : skipSpaces cs with
  | nil => rw [skipValue_nil (skipSpaces_of_eq h), skipValue_nil h]
  | cons c rest => rw [skipValue_eq (skipSpaces_of_eq h), skipValue_eq h]

theorem skipName_of_name {cs item afterName rest : List Char} {key : String}
    (h : skipSpaces cs = item) (hname : name item = .ok (key, afterName))
    (hcolon : colon afterName = .ok rest) : skipName cs = .ok rest := by
  unfold name at hname
  split at hname
  · cases hname
  split at hname
  · rename_i c cs' hc
    have hskip := skipString_of_string hname
    unfold colon at hcolon
    split at hcolon
    · cases hcolon
    split at hcolon
    · rename_i d rest' hd hcolon'
      cases hcolon
      rw [skipName]
      split <;> rename_i h' <;> rw [h] at h' <;> cases h'
      rw [if_pos hc, hskip]
      simp only [hd, if_pos hcolon']
    · cases hcolon
  · cases hname

theorem skipItem_record {cs rest : List Char} (h : skipName cs = .ok rest) (frames : List Frame) :
    skipItem .record frames cs = skipValue (.record :: frames) rest := by
  rw [skipItem]
  split <;> rename_i h' <;> rw [h] at h' <;> cases h'
  rfl

theorem skipAfter_cons {cs rest : List Char} {c : Char} (h : skipSpaces cs = c :: rest)
    (f : Frame) (outer : List Frame) :
    skipAfter (f :: outer) cs =
      if c = ',' then skipItem f outer rest
      else if c = f.close then skipAfter outer rest
      else .error .malformed := by
  rw [skipAfter]
  split <;> rename_i h' <;> rw [h] at h' <;> cases h'
  rfl

theorem skipFirst_eq {cs rest : List Char} {c : Char} (h : skipSpaces cs = c :: rest)
    (f : Frame) (frames : List Frame) :
    skipFirst f frames cs =
      if c = f.close then skipAfter frames rest else skipItem f frames cs := by
  rw [skipFirst]
  split <;> rename_i h' <;> rw [h] at h' <;> cases h'
  rfl

/-- Reading over the next item or member and on, or over the end. -/
def skipOn (first : Bool) (f : Frame) (frames : List Frame) (cs : List Char) :
    Except Fault (List Char) :=
  if first then skipFirst f frames cs else skipAfter (f :: frames) cs

theorem Frame.close_ne_comma (f : Frame) : f.close ≠ ',' := by cases f <;> decide

theorem skipOn_of_closed (f : Frame) {first : Bool} {cs rest : List Char}
    (h : next f.close first cs = .ok (.closed rest)) (frames : List Frame) :
    skipOn first f frames cs = skipAfter frames rest := by
  unfold next at h
  split at h
  · cases h
  rename_i c rest' hc
  split at h
  · rename_i hclose
    cases h
    cases first with
    | true => simp only [skipOn, if_true, skipFirst_eq hc, if_pos hclose]
    | false =>
      have hcomma : c ≠ ',' := hclose ▸ f.close_ne_comma
      simp only [skipOn, Bool.false_eq_true, if_false, skipAfter_cons hc, if_neg hcomma,
        if_pos hclose]
  · split at h
    · cases h
    split at h
    · split at h
      · cases h
      · split at h <;> cases h
    · cases h

/-- The item starts after the spaces, and after the comma if there is one. -/
theorem skipOn_of_item (f : Frame) {first : Bool} {cs item : List Char}
    (h : next f.close first cs = .ok (.item item)) (frames : List Frame) :
    ∃ spaced, skipSpaces spaced = item ∧ skipOn first f frames cs = skipItem f frames spaced := by
  unfold next at h
  split at h
  · cases h
  rename_i c rest hc
  split at h
  · cases h
  rename_i hclose
  split at h
  · rename_i hfirst
    cases h
    refine ⟨cs, hc, ?_⟩
    simp only [skipOn, hfirst, if_true, skipFirst_eq hc, if_neg hclose]
  rename_i hfirst
  split at h
  · rename_i hcomma
    split at h
    · cases h
    rename_i d rest' hd
    split at h
    · cases h
    · cases h
      refine ⟨rest, hd, ?_⟩
      simp only [skipOn, if_neg hfirst, skipAfter_cons hc, if_pos hcomma]
  · cases h

mutual

/-- What is read as a value is read over to the same place. -/
theorem skipValue_of_readValue {around : List Place} {cs rest : List Char} {v : Json}
    (h : readValue around cs = .ok (v, rest)) : skipValue (around.map Place.frame) cs = .ok rest := by
  rw [readValue] at h
  split at h
  · cases h
  rename_i c rest' hc
  have front := length_of_skipSpaces_cons hc
  rw [skipValue_eq hc]
  split at h
  · rename_i hlist
    rw [if_pos hlist]
    exact skipOn_of_readItem h
  rename_i hlist
  rw [if_neg hlist]
  split at h
  · rename_i hrecord
    rw [if_pos hrecord]
    exact skipOn_of_readMember h
  rename_i hrecord
  rw [if_neg hrecord]
  split at h
  · cases h
  · rename_i w after hw
    have := length_of_readPlain hw
    simp only [skipPlain_of_readPlain hw]
    exact skipAfter_of_readAfter h
termination_by 4 * cs.length

theorem skipOn_of_readItem {first : Bool} {before : List Json} {around : List Place}
    {cs rest : List Char} {v : Json} (h : readItem first before around cs = .ok (v, rest)) :
    skipOn first .list (around.map Place.frame) cs = .ok rest := by
  rw [readItem] at h
  split at h
  · cases h
  · rename_i after hn
    have := length_of_next_closed hn
    rw [skipOn_of_closed .list hn]
    exact skipAfter_of_readAfter h
  · rename_i item hn
    have := length_of_next_item hn
    obtain ⟨spaced, hspaced, hskip⟩ := skipOn_of_item .list hn (around.map Place.frame)
    rw [hskip, skipItem, ← skipValue_skipSpaces, hspaced]
    exact skipValue_of_readValue h
termination_by 4 * cs.length + 1

theorem skipOn_of_readMember {first : Bool} {before : List (String × Json)} {around : List Place}
    {cs rest : List Char} {v : Json} (h : readMember first before around cs = .ok (v, rest)) :
    skipOn first .record (around.map Place.frame) cs = .ok rest := by
  rw [readMember] at h
  split at h
  · cases h
  · rename_i after hn
    have := length_of_next_closed hn
    rw [skipOn_of_closed .record hn]
    exact skipAfter_of_readAfter h
  · rename_i item hn
    have hitem := length_of_next_item hn
    split at h
    · cases h
    rename_i key afterName hname
    have := length_of_name hname
    split at h
    · cases h
    rename_i afterColon hcolon
    have := length_of_colon hcolon
    obtain ⟨spaced, hspaced, hskip⟩ := skipOn_of_item .record hn (around.map Place.frame)
    rw [hskip, skipItem_record (skipName_of_name hspaced hname hcolon)]
    exact skipValue_of_readValue h
termination_by 4 * cs.length + 1

theorem skipAfter_of_readAfter {around : List Place} {cs rest : List Char} {v w : Json}
    (h : readAfter around v cs = .ok (w, rest)) : skipAfter (around.map Place.frame) cs = .ok rest := by
  cases around with
  | nil =>
    rw [readAfter] at h
    cases h
    rw [List.map_nil, skipAfter]
  | cons place outer =>
    cases place with
    | item before =>
      rw [readAfter] at h
      exact skipOn_of_readItem h
    | member before key =>
      rw [readAfter] at h
      exact skipOn_of_readMember h
termination_by 4 * cs.length + 2

end

/-! ## What is written is read back -/

theorem readValue_of_plain {cs rest rest' : List Char} {c : Char} {v : Json}
    (hcs : skipSpaces cs = c :: rest) (hlist : c ≠ '[') (hrecord : c ≠ '\x7b')
    (h : readPlain c rest = .ok (v, rest')) (around : List Place) :
    readValue around cs = readAfter around v rest' := by
  rw [readValue]
  split
  next he => rw [hcs] at he; cases he
  next d r hd =>
    rw [hcs] at hd
    cases hd
    rw [if_neg hlist, if_neg hrecord]
    split
    next he => rw [h] at he; cases he
    next hv => rw [h] at hv; cases hv; rfl

theorem readValue_list (around : List Place) (rest : List Char) :
    readValue around ('[' :: rest) = readItem true [] around rest := by
  rw [readValue]
  split
  next he => cases he
  next hd => cases hd; rw [if_pos rfl]

theorem readValue_record (around : List Place) (rest : List Char) :
    readValue around ('\x7b' :: rest) = readMember true [] around rest := by
  rw [readValue]
  split
  next he => cases he
  next hd => cases hd; rw [if_neg (by decide), if_pos rfl]

theorem readItem_of_closed {first : Bool} {cs rest : List Char}
    (h : next ']' first cs = .ok (.closed rest)) (before : List Json) (around : List Place) :
    readItem first before around cs = readAfter around (.list before) rest := by
  rw [readItem]
  split <;> rename_i h' <;> rw [h] at h' <;> cases h'
  rfl

theorem readItem_of_item {first : Bool} {cs item : List Char}
    (h : next ']' first cs = .ok (.item item)) (before : List Json) (around : List Place) :
    readItem first before around cs = readValue (.item before :: around) item := by
  rw [readItem]
  split <;> rename_i h' <;> rw [h] at h' <;> cases h'
  rfl

theorem readMember_of_closed {first : Bool} {cs rest : List Char}
    (h : next '\x7d' first cs = .ok (.closed rest)) (before : List (String × Json))
    (around : List Place) :
    readMember first before around cs = readAfter around (.record before) rest := by
  rw [readMember]
  split <;> rename_i h' <;> rw [h] at h' <;> cases h'
  rfl

theorem readMember_of_item {first : Bool} {cs item afterName afterColon : List Char} {key : String}
    (h : next '\x7d' first cs = .ok (.item item)) (hname : name item = .ok (key, afterName))
    (hcolon : colon afterName = .ok afterColon) (before : List (String × Json))
    (around : List Place) :
    readMember first before around cs = readValue (.member before key :: around) afterColon := by
  rw [readMember]
  split <;> rename_i h' <;> rw [h] at h' <;> cases h'
  split <;> rename_i h' <;> rw [hname] at h' <;> cases h'
  split <;> rename_i h' <;> rw [hcolon] at h' <;> cases h'
  rfl

mutual

/-- A written value is read back, wherever it stands and whatever follows it. -/
theorem readValue_compactChars (v : Json) (around : List Place) (rest : List Char) :
    readValue around (compactChars v ++ rest) = readAfter around v rest := by
  cases v with
  | null =>
    rw [compactChars]
    exact readValue_of_plain rfl (by decide) (by decide) rfl around
  | bool b =>
    cases b <;> rw [compactChars] <;>
      exact readValue_of_plain rfl (by decide) (by decide) rfl around
  | text s =>
    rw [compactChars, written_append]
    refine readValue_of_plain rfl (by decide) (by decide) ?_ around
    simp [readPlain, string_written, Except.map]
  | list vs =>
    rw [compactChars, compactItems_eq, List.cons_append, readValue_list,
      readItem_itemsOn vs true [] around rest, List.nil_append]
  | record ms =>
    rw [compactChars, compactMembers_eq, List.cons_append, readValue_record,
      readMember_membersOn ms true [] around rest, List.nil_append]

theorem readItem_itemsOn (vs : List Json) (first : Bool) (before : List Json) (around : List Place)
    (rest : List Char) :
    readItem first before around (itemsOn first vs ++ rest) =
      readAfter around (.list (before ++ vs)) rest := by
  cases vs with
  | nil =>
    rw [itemsOn, List.append_nil]
    exact readItem_of_closed (next_closed (by decide) first rest) before around
  | cons v vs =>
    have hnext := next_compactChars first v (itemsOn false vs ++ rest)
    rw [itemsOn, List.append_assoc, List.append_assoc, readItem_of_item hnext,
      readValue_compactChars v, readAfter, readItem_itemsOn vs false, List.append_assoc,
      List.singleton_append]

theorem readMember_membersOn (ms : List (String × Json)) (first : Bool)
    (before : List (String × Json)) (around : List Place) (rest : List Char) :
    readMember first before around (membersOn first ms ++ rest) =
      readAfter around (.record (before ++ ms)) rest := by
  match ms with
  | [] =>
    rw [membersOn, List.append_nil]
    exact readMember_of_closed (next_closed (by decide) first rest) before around
  | (key, v) :: ms =>
    have hnext := next_written first key (':' :: (compactChars v ++ (membersOn false ms ++ rest)))
    rw [membersOn, List.append_assoc, List.append_assoc, List.cons_append, List.append_assoc,
      readMember_of_item hnext (name_written key _) (colon_cons _),
      readValue_compactChars v, readAfter, readMember_membersOn ms false, List.append_assoc,
      List.singleton_append]

end

/-- The text is JSON: one value, and nothing but spaces around it. -/
def Valid (s : String) : Prop := ∃ rest, skip s.toList = .ok rest ∧ atEnd rest = .ok ()

/-- **What is accepted is JSON.** -/
theorem valid_of_parse {s : String} {v : Json} (h : parse s = .ok v) : Valid s := by
  unfold parse at h
  cases hv : readValue [] s.toList with
  | error e => rw [hv] at h; cases h
  | ok p =>
    obtain ⟨w, rest⟩ := p
    rw [hv] at h
    refine ⟨rest, skipValue_of_readValue hv, ?_⟩
    cases hend : atEnd rest with
    | error e =>
      have hbind : (atEnd rest >>= fun _ => pure w) = .ok v := h
      rw [hend] at hbind
      cases hbind
    | ok _ => rfl

/-- **What is written is read back.** -/
theorem parse_compact (v : Json) : parse v.compact = .ok v := by
  have h := readValue_compactChars v [] []
  rw [List.append_nil, readAfter] at h
  rw [parse, compact, String.toList_ofList, h]
  rfl

end CloudRehearsal.Json
