import CloudRehearsal.Json.Magnitude
import CloudRehearsal.Json.Skip

/-!
Reading a record with named fields, from a JSON object with its members in any order or from a list
of all its fields in their own order.

Unknown members are read over. A field that stands twice, is missing, or holds a value of another
kind is a fault of form; of several faults the first from left to right counts, and a value of
another kind is still read as far as it takes to see that it is JSON.
-/
namespace CloudRehearsal.Json

open Text

/-! ## Values -/

/-- What is wrong with a number where no number is wanted, its sign read. -/
def numberFault (cs : List Char) : Fault :=
  match (number cs).fault? .endsEarly with
  | some fault => fault
  | none => if (number cs).isHuge then .malformed else .otherForm

/-- What is wrong with a value of another kind than wanted, by its first character. -/
def wrongKind (c : Char) (rest : List Char) : Fault :=
  let after {α : Type} (read : Except Fault α) : Fault :=
    match read with
    | .error e => e
    | .ok _ => .otherForm
  if c = 'n' then after (word ['u', 'l', 'l'] rest)
  else if c = 't' then after (word ['r', 'u', 'e'] rest)
  else if c = 'f' then after (word ['a', 'l', 's', 'e'] rest)
  else if c = '-' then numberFault rest
  else if isDigit c then numberFault (c :: rest)
  else if c = '"' then after (string rest)
  else if c = '[' ∨ c = '\x7b' then .otherForm
  else .malformed

/-- Reads a string. -/
def readText (cs : List Char) : Except Fault (String × List Char) :=
  match skipSpaces cs with
  | [] => .error .endsEarly
  | c :: rest => if c = '"' then string rest else .error (wrongKind c rest)

theorem length_of_readText {cs rest : List Char} {s : String} (h : readText cs = .ok (s, rest)) :
    rest.length < cs.length := by
  unfold readText at h
  split at h
  · cases h
  · rename_i hc
    split at h
    · exact Nat.lt_trans (length_of_string h) (length_of_skipSpaces_cons hc)
    · cases h

/-- Reads a string or null. -/
def readOptional (cs : List Char) : Except Fault (Option String × List Char) :=
  match skipSpaces cs with
  | 'n' :: rest => (word ['u', 'l', 'l'] rest).map fun rest => (none, rest)
  | _ => (readText cs).map fun (s, rest) => (some s, rest)

theorem length_of_readOptional {cs rest : List Char} {s : Option String}
    (h : readOptional cs = .ok (s, rest)) : rest.length < cs.length := by
  unfold readOptional at h
  split at h
  · rename_i r hr
    cases hw : word ['u', 'l', 'l'] r with
    | error e => rw [hw] at h; cases h
    | ok r' =>
      rw [hw] at h
      cases h
      exact Nat.lt_of_le_of_lt (length_of_word hw) (length_of_skipSpaces_cons hr)
  · cases ht : readText cs with
    | error e => rw [ht] at h; cases h
    | ok p =>
      rw [ht] at h
      cases h
      exact length_of_readText ht

/-- Where the next item of a list or member of a record starts, or the text after the end. -/
inductive Next where
  | item (cs : List Char)
  | closed (rest : List Char)

/-- Looks for the next item in front of `close`: after a comma unless it is the first. -/
def next (close : Char) (first : Bool) (cs : List Char) : Except Fault Next :=
  match skipSpaces cs with
  | [] => .error .endsEarly
  | c :: rest =>
    if c = close then .ok (.closed rest)
    else if first then .ok (.item (c :: rest))
    else if c = ',' then
      match skipSpaces rest with
      | [] => .error .endsEarly
      | d :: rest' => if d = close then .error .malformed else .ok (.item (d :: rest'))
    else .error .malformed

theorem length_of_next_item {close : Char} {first : Bool} {cs item : List Char}
    (h : next close first cs = .ok (.item item)) : item.length ≤ cs.length := by
  unfold next at h
  split at h
  · cases h
  · rename_i c rest hc
    have front := length_of_skipSpaces_cons hc
    split at h
    · cases h
    · split at h
      · cases h
        simp only [List.length_cons]
        omega
      · split at h
        · split at h
          · cases h
          · rename_i d rest' hd
            have := length_of_skipSpaces_cons hd
            split at h
            · cases h
            · cases h
              simp only [List.length_cons]
              omega
        · cases h

theorem length_of_next_closed {close : Char} {first : Bool} {cs rest : List Char}
    (h : next close first cs = .ok (.closed rest)) : rest.length < cs.length := by
  unfold next at h
  split at h
  · cases h
  · rename_i c r hc
    have front := length_of_skipSpaces_cons hc
    split at h
    · cases h
      exact front
    · split at h
      · cases h
      · split at h
        · split at h
          · cases h
          · split at h <;> cases h
        · cases h

/-- Reads the strings of a list on, with those found so far in reverse. -/
def textsFrom (first : Bool) (found : List String) (cs : List Char) :
    Except Fault (List String × List Char) :=
  match _h : next ']' first cs with
  | .error e => .error e
  | .ok (.closed rest) => .ok (found.reverse, rest)
  | .ok (.item item) =>
    match _h' : readText item with
    | .error e => .error e
    | .ok (s, rest) => textsFrom false (s :: found) rest
termination_by cs.length
decreasing_by exact Nat.lt_of_lt_of_le (length_of_readText ‹_›) (length_of_next_item ‹_›)

theorem length_of_textsFrom {first : Bool} {found texts : List String} {cs rest : List Char}
    (h : textsFrom first found cs = .ok (texts, rest)) : rest.length < cs.length := by
  fun_induction textsFrom first found cs with
  | case1 => cases h
  | case2 _ _ _ _ hn => cases h; exact length_of_next_closed hn
  | case3 => cases h
  | case4 _ _ _ _ hn _ _ ht ih =>
    exact Nat.lt_trans (ih h) (Nat.lt_of_lt_of_le (length_of_readText ht) (length_of_next_item hn))

/-- Reads a list of strings. -/
def readTexts (cs : List Char) : Except Fault (List String × List Char) :=
  match skipSpaces cs with
  | [] => .error .endsEarly
  | c :: rest => if c = '[' then textsFrom true [] rest else .error (wrongKind c rest)

theorem length_of_readTexts {cs rest : List Char} {ss : List String}
    (h : readTexts cs = .ok (ss, rest)) : rest.length < cs.length := by
  unfold readTexts at h
  split at h
  · cases h
  · rename_i hc
    split at h
    · exact Nat.lt_trans (length_of_textsFrom h) (length_of_skipSpaces_cons hc)
    · cases h

/-! ## Fields -/

/-- What a field holds. -/
inductive Form where
  | text
  /-- A string or null; the field may be left out. -/
  | optional
  | texts
  deriving DecidableEq, Repr

/-- What has been read for a field. -/
inductive Datum where
  | text (s : String)
  | optional (s : Option String)
  | texts (ss : List String)
  deriving DecidableEq, Repr

/-- Reads the value of a field. -/
def Form.read (f : Form) (cs : List Char) : Except Fault (Datum × List Char) :=
  match f with
  | .text => (readText cs).map fun (s, rest) => (.text s, rest)
  | .optional => (readOptional cs).map fun (s, rest) => (.optional s, rest)
  | .texts => (readTexts cs).map fun (ss, rest) => (.texts ss, rest)

theorem length_of_read {f : Form} {cs rest : List Char} {d : Datum}
    (h : f.read cs = .ok (d, rest)) : rest.length < cs.length := by
  cases f with
  | text =>
    simp only [Form.read] at h
    cases hr : readText cs with
    | error e => rw [hr] at h; cases h
    | ok p => rw [hr] at h; cases h; exact length_of_readText hr
  | optional =>
    simp only [Form.read] at h
    cases hr : readOptional cs with
    | error e => rw [hr] at h; cases h
    | ok p => rw [hr] at h; cases h; exact length_of_readOptional hr
  | texts =>
    simp only [Form.read] at h
    cases hr : readTexts cs with
    | error e => rw [hr] at h; cases h
    | ok p => rw [hr] at h; cases h; exact length_of_readTexts hr

/-- The fields of a record, in their own order. -/
abbrev Fields := List (String × Form)

/-- What has been read for the fields that were found. -/
abbrev Found := List (String × Datum)

namespace Found

/-- The string of a field that must be there. -/
def text? (found : Found) (name : String) : Option String :=
  match found.lookup name with
  | some (.text s) => some s
  | _ => none

/-- The string of a field that may be left out or null. -/
def optional (found : Found) (name : String) : Option String :=
  match found.lookup name with
  | some (.optional s) => s
  | _ => none

/-- The strings of a field that must be there. -/
def texts? (found : Found) (name : String) : Option (List String) :=
  match found.lookup name with
  | some (.texts ss) => some ss
  | _ => none

end Found

/-! ## Records -/

/-- Reads the colon after a name. -/
def colon (cs : List Char) : Except Fault (List Char) :=
  match skipSpaces cs with
  | [] => .error .endsEarly
  | c :: rest => if c = ':' then .ok rest else .error .malformed

theorem length_of_colon {cs rest : List Char} (h : colon cs = .ok rest) :
    rest.length < cs.length := by
  unfold colon at h
  split at h
  · cases h
  · rename_i hc
    split at h
    · cases h
      exact length_of_skipSpaces_cons hc
    · cases h

/-- Reads the name that starts here, and nothing but a string. -/
def name (cs : List Char) : Except Fault (String × List Char) :=
  match cs with
  | [] => .error .endsEarly
  | c :: rest => if c = '"' then string rest else .error .malformed

theorem length_of_name {cs rest : List Char} {s : String} (h : name cs = .ok (s, rest)) :
    rest.length < cs.length := by
  unfold name at h
  split at h
  · cases h
  · split at h
    · exact Nat.lt_succ_of_lt (length_of_string h)
    · cases h

/-- Reads what follows a name: the value of a field, or one to be read over. -/
def member (fields : Fields) (found : Found) (key : String) (cs : List Char) :
    Except Fault (Found × List Char) :=
  match fields.lookup key with
  | none =>
    match colon cs with
    | .error e => .error e
    | .ok rest => (skip rest).map fun rest => (found, rest)
  | some form =>
    if (found.lookup key).isSome then .error .otherForm
    else
      match colon cs with
      | .error e => .error e
      | .ok rest => (form.read rest).map fun (d, rest) => ((key, d) :: found, rest)

theorem length_of_member {fields : Fields} {found found' : Found} {key : String}
    {cs rest : List Char} (h : member fields found key cs = .ok (found', rest)) :
    rest.length < cs.length := by
  unfold member at h
  split at h
  · split at h
    · cases h
    · rename_i r hr
      cases hs : skip r with
      | error e => rw [hs] at h; cases h
      | ok r' =>
        rw [hs] at h
        cases h
        exact Nat.lt_of_le_of_lt (length_of_skip hs) (length_of_colon hr)
  · split at h
    · cases h
    · split at h
      · cases h
      · rename_i form _ _ _ r hr
        cases hs : form.read r with
        | error e => rw [hs] at h; cases h
        | ok p =>
          rw [hs] at h
          cases h
          exact Nat.lt_trans (length_of_read hs) (length_of_colon hr)

/-- Reads the members of a record on. -/
def membersFrom (fields : Fields) (first : Bool) (found : Found) (cs : List Char) :
    Except Fault (Found × List Char) :=
  match _h : next '\x7d' first cs with
  | .error e => .error e
  | .ok (.closed rest) => .ok (found, rest)
  | .ok (.item item) =>
    match _h' : name item with
    | .error e => .error e
    | .ok (key, rest) =>
      match _h'' : member fields found key rest with
      | .error e => .error e
      | .ok (found, rest) => membersFrom fields false found rest
termination_by cs.length
decreasing_by
  exact Nat.lt_trans (length_of_member ‹_›)
    (Nat.lt_of_lt_of_le (length_of_name ‹_›) (length_of_next_item ‹_›))

/-- Reads the fields in their own order, and the end of the list after the last. -/
def inOrder (first : Bool) (found : Found) (cs : List Char) :
    Fields → Except Fault (Found × List Char)
  | [] =>
    match skipSpaces cs with
    | [] => .error .endsEarly
    | c :: rest => if c = ']' then .ok (found, rest) else .error .malformed
  | (key, form) :: more =>
    match next ']' first cs with
    | .error e => .error e
    | .ok (.closed _) => .error .otherForm
    | .ok (.item item) =>
      match form.read item with
      | .error e => .error e
      | .ok (d, rest) => inOrder false ((key, d) :: found) rest more

/-- Reads the fields of a record, from an object or a list. -/
def readFields (fields : Fields) (cs : List Char) : Except Fault (Found × List Char) :=
  match skipSpaces cs with
  | [] => .error .endsEarly
  | c :: rest =>
    if c = '\x7b' then membersFrom fields true [] rest
    else if c = '[' then inOrder true [] rest fields
    else .error (wrongKind c rest)

/-! ## Whole texts -/

/-- Nothing but spaces follows. -/
def atEnd (cs : List Char) : Except Fault Unit :=
  if (skipSpaces cs).isEmpty then .ok () else .error .malformed

/-- Reads a text that holds one record and nothing after it. `make` builds the value, or fails when
a field is missing. -/
def readRecord {α : Type} (fields : Fields) (make : Found → Option α) (s : String) :
    Except Fault α :=
  match readFields fields s.toList with
  | .error e => .error e
  | .ok (found, rest) =>
    match make found with
    | none => .error .otherForm
    | some a => (atEnd rest).map fun _ => a

end CloudRehearsal.Json
