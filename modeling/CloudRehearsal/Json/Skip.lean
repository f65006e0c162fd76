import CloudRehearsal.Json.Scan

/-!
Reading over a value that does not matter, whatever it holds and however deep it is nested.

The lists and records that are still open are kept aside, so depth costs no recursion. What a number
or a string in such a value means is not asked: a number may be out of range, and half of a pair of
units may stand alone.
-/
namespace CloudRehearsal.Json

open Text

/-- A list or record that is still open. -/
inductive Frame where
  | list
  | record
  deriving DecidableEq, Repr

/-- The character that closes a frame. -/
def Frame.close : Frame → Char
  | .list => ']'
  | .record => '\x7d'

theorem length_of_skipSpaces_cons {cs rest : List Char} {c : Char} (h : skipSpaces cs = c :: rest) :
    rest.length < cs.length := by
  have := length_skipSpaces_le cs
  rw [h] at this
  exact this

/-- Reads over a number whose sign has been read. -/
def skipNumber (cs : List Char) : Except Fault (List Char) :=
  match (number cs).fault? .malformed with
  | some fault => .error fault
  | none => .ok (number cs).rest

theorem length_of_skipNumber {cs rest : List Char} (h : skipNumber cs = .ok rest) :
    rest.length ≤ cs.length := by
  unfold skipNumber at h
  split at h
  · cases h
  · cases h; exact length_number_le cs

/-- Reads over a value that opens nothing, its first character given. -/
def skipPlain (c : Char) (rest : List Char) : Except Fault (List Char) :=
  if c = 'n' then word ['u', 'l', 'l'] rest
  else if c = 't' then word ['r', 'u', 'e'] rest
  else if c = 'f' then word ['a', 'l', 's', 'e'] rest
  else if c = '"' then skipString rest
  else if c = '-' then skipNumber rest
  else if isDigit c then skipNumber (c :: rest)
  else .error .malformed

theorem length_of_skipPlain {c : Char} {cs rest : List Char} (h : skipPlain c cs = .ok rest) :
    rest.length ≤ cs.length + 1 := by
  unfold skipPlain at h
  split at h
  · exact Nat.le_succ_of_le (length_of_word h)
  · split at h
    · exact Nat.le_succ_of_le (length_of_word h)
    · split at h
      · exact Nat.le_succ_of_le (length_of_word h)
      · split at h
        · exact Nat.le_succ_of_le (Nat.le_of_lt (length_of_skipString h))
        · split at h
          · exact Nat.le_succ_of_le (length_of_skipNumber h)
          · split at h
            · exact length_of_skipNumber h
            · cases h

/-- Reads over the name of a member and the colon after it. -/
def skipName (cs : List Char) : Except Fault (List Char) :=
  match _h : skipSpaces cs with
  | [] => .error .endsEarly
  | c :: rest =>
    if c = '"' then
      match skipString rest with
      | .error e => .error e
      | .ok rest' =>
        match skipSpaces rest' with
        | [] => .error .endsEarly
        | d :: rest'' => if d = ':' then .ok rest'' else .error .malformed
    else .error .malformed

theorem length_of_skipName {cs rest : List Char} (h : skipName cs = .ok rest) :
    rest.length < cs.length := by
  have blank := length_skipSpaces_le cs
  unfold skipName at h
  split at h
  · cases h
  · rename_i c r hr
    split at h
    · split at h
      · cases h
      · rename_i r' hs
        have name := length_of_skipString hs
        have after := length_skipSpaces_le r'
        split at h
        · cases h
        · rename_i d r'' hd
          split at h
          · cases h
            rw [hr] at blank
            rw [hd] at after
            simp at blank after
            omega
          · cases h
    · cases h

mutual

/-- Reads over a value, and on until the frames around it, innermost first, are closed. -/
def skipValue (frames : List Frame) (cs : List Char) : Except Fault (List Char) :=
  match h : skipSpaces cs with
  | [] => .error .endsEarly
  | c :: rest =>
    have : rest.length < cs.length := length_of_skipSpaces_cons h
    if c = '[' then skipFirst .list frames rest
    else if c = '\x7b' then skipFirst .record frames rest
    else
      match h' : skipPlain c rest with
      | .error e => .error e
      | .ok rest' =>
        have : rest'.length ≤ cs.length := Nat.le_trans (length_of_skipPlain h') this
        skipAfter frames rest'
termination_by 4 * cs.length + 1
decreasing_by all_goals omega

/-- Reads on after the opening of a frame. -/
def skipFirst (f : Frame) (frames : List Frame) (cs : List Char) : Except Fault (List Char) :=
  match h : skipSpaces cs with
  | [] => .error .endsEarly
  | c :: rest =>
    have : rest.length < cs.length := length_of_skipSpaces_cons h
    if c = f.close then skipAfter frames rest else skipItem f frames cs
termination_by 4 * cs.length + 3
decreasing_by all_goals omega

/-- Reads over an item of a list or a member of a record, and on. -/
def skipItem (f : Frame) (frames : List Frame) (cs : List Char) : Except Fault (List Char) :=
  match f with
  | .list => skipValue (.list :: frames) cs
  | .record =>
    match h : skipName cs with
    | .error e => .error e
    | .ok rest =>
      have : rest.length < cs.length := length_of_skipName h
      skipValue (.record :: frames) rest
termination_by 4 * cs.length + 2
decreasing_by all_goals omega

/-- Reads on after a value inside the frames. -/
def skipAfter (frames : List Frame) (cs : List Char) : Except Fault (List Char) :=
  match frames with
  | [] => .ok cs
  | f :: outer =>
    match h : skipSpaces cs with
    | [] => .error .endsEarly
    | c :: rest =>
      have : rest.length < cs.length := length_of_skipSpaces_cons h
      if c = ',' then skipItem f outer rest
      else if c = f.close then skipAfter outer rest
      else .error .malformed
termination_by 4 * cs.length + 0
decreasing_by all_goals omega

end

mutual

theorem length_of_skipValue {frames : List Frame} {cs rest : List Char}
    (h : skipValue frames cs = .ok rest) : rest.length ≤ cs.length := by
  rw [skipValue] at h
  split at h
  · cases h
  · rename_i hc
    have front := length_of_skipSpaces_cons hc
    split at h
    · exact Nat.le_of_lt (Nat.lt_of_le_of_lt (length_of_skipFirst h) front)
    · split at h
      · exact Nat.le_of_lt (Nat.lt_of_le_of_lt (length_of_skipFirst h) front)
      · split at h
        · cases h
        · rename_i hp
          have := length_of_skipPlain hp
          have := length_of_skipAfter h
          omega
termination_by 4 * cs.length + 1

theorem length_of_skipFirst {f : Frame} {frames : List Frame} {cs rest : List Char}
    (h : skipFirst f frames cs = .ok rest) : rest.length ≤ cs.length := by
  rw [skipFirst] at h
  split at h
  · cases h
  · rename_i hc
    have front := length_of_skipSpaces_cons hc
    split at h
    · exact Nat.le_of_lt (Nat.lt_of_le_of_lt (length_of_skipAfter h) front)
    · exact length_of_skipItem h
termination_by 4 * cs.length + 3

theorem length_of_skipItem {f : Frame} {frames : List Frame} {cs rest : List Char}
    (h : skipItem f frames cs = .ok rest) : rest.length ≤ cs.length := by
  cases f with
  | list =>
    rw [skipItem] at h
    exact length_of_skipValue h
  | record =>
    simp only [skipItem] at h
    split at h
    · cases h
    · rename_i hn
      have name := length_of_skipName hn
      exact Nat.le_of_lt (Nat.lt_of_le_of_lt (length_of_skipValue h) name)
termination_by 4 * cs.length + 2

theorem length_of_skipAfter {frames : List Frame} {cs rest : List Char}
    (h : skipAfter frames cs = .ok rest) : rest.length ≤ cs.length := by
  cases frames with
  | nil =>
    rw [skipAfter] at h
    cases h
    exact Nat.le_refl _
  | cons f outer =>
    rw [skipAfter] at h
    split at h
    · cases h
    · rename_i hc
      have front := length_of_skipSpaces_cons hc
      split at h
      · exact Nat.le_of_lt (Nat.lt_of_le_of_lt (length_of_skipItem h) front)
      · split at h
        · exact Nat.le_of_lt (Nat.lt_of_le_of_lt (length_of_skipAfter h) front)
        · cases h
termination_by 4 * cs.length

end

/-- Reads over one value. -/
def skip (cs : List Char) : Except Fault (List Char) := skipValue [] cs

theorem length_of_skip {cs rest : List Char} (h : skip cs = .ok rest) : rest.length ≤ cs.length :=
  length_of_skipValue h

end CloudRehearsal.Json
