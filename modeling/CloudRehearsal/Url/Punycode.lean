/-!
Punycode (RFC 3492), the spelling of a label of a host name in ASCII: the ASCII characters come
first, then the places and values of the others as differences, each written in digits whose weights
adapt to what has been read.

`decode?` reads a label. Numbers are held to 32 bits, so a label that would need more is refused.
-/
namespace CloudRehearsal.Url.Punycode

/-- The value of a digit: small letters count from zero, decimal digits from 26. -/
def digit? (c : Char) : Option Nat :=
  if 'a' ≤ c ∧ c ≤ 'z' then some (c.toNat - 0x61)
  else if '0' ≤ c ∧ c ≤ '9' then some (c.toNat - 0x30 + 26)
  else none

/-- The value below which a digit at position `k` ends its number. -/
def threshold (k bias : Nat) : Nat :=
  if k ≤ bias then 1 else if bias + 26 ≤ k then 26 else k - bias

/-- Scales a difference down until it is small, counting the rounds in steps of 36. -/
def scaled (delta k : Nat) : Nat × Nat :=
  if 455 < delta then scaled (delta / 35) (k + 36) else (delta, k)
termination_by delta
decreasing_by omega

/-- The bias after a difference, once `count` characters are known. -/
def adapted (delta count : Nat) (first : Bool) : Nat :=
  let delta := if first then delta / 700 else delta / 2
  let (delta, k) := scaled (delta + delta / count) 0
  k + 36 * delta / (delta + 38)

/-- The first number that needs more than 32 bits. -/
def limit : Nat := Nat.pow 2 32

/-- Reads one number and adds it to `total`: the sum and the text after the number. -/
def readNumber? (bias k weight total : Nat) : List Char → Option (Nat × List Char)
  | [] => none
  | c :: rest =>
    match digit? c with
    | none => none
    | some d =>
      let total := total + d * weight
      let t := threshold k bias
      if limit ≤ total then none
      else if d < t then some (total, rest)
      else if limit ≤ weight * (36 - t) then none
      else readNumber? bias (k + 36) (weight * (36 - t)) total rest

theorem length_of_readNumber? {bias k weight total n : Nat} {cs rest : List Char}
    (h : readNumber? bias k weight total cs = some (n, rest)) : rest.length < cs.length := by
  induction cs generalizing k weight total with
  | nil => simp [readNumber?] at h
  | cons c cs ih =>
    simp only [readNumber?] at h
    split at h
    · cases h
    · split at h
      · cases h
      · split at h
        · cases h; simp
        · split at h
          · cases h
          · have := ih h; simp; omega

/-- Where reading stands: the last code point, the place after it (zero before the first), the bias,
and the characters. -/
structure State where
  code : Nat
  place : Nat
  bias : Nat
  found : List Char

/-- Inserts characters until the text ends. -/
def insertAll? (st : State) (cs : List Char) : Option (List Char) :=
  if cs.isEmpty then some st.found
  else
    match h : readNumber? st.bias 36 1 st.place cs with
    | none => none
    | some (total, rest) =>
      have : rest.length < cs.length := length_of_readNumber? h
      let count := st.found.length + 1
      let code := st.code + total / count
      if code.isValidChar then
        insertAll?
          { code
            place := total % count + 1
            bias := adapted (total - st.place) count (st.place == 0)
            found := st.found.insertIdx (total % count) (Char.ofNat code) } rest
      else none
termination_by cs.length

/-- The label that Punycode spells. -/
def decode? (cs : List Char) : Option (List Char) :=
  let ascii := (cs.reverse.dropWhile (· != '-')).drop 1 |>.reverse
  let coded := if ascii.isEmpty then cs else cs.drop (ascii.length + 1)
  insertAll? ⟨128, 0, 72, ascii⟩ coded

end CloudRehearsal.Url.Punycode
