import CloudRehearsal.Exchange.Session
import CloudRehearsal.Proofs.WrittenText
import CloudRehearsal.Text.Basic

/-!
What the name of a resource tells, and where it may stand. There are always eight hexadecimal digits
at its end, so a name comes apart in one way only, whatever is in the label; and the digits are written
in small letters, so whether the name suits a bucket is up to the label
(`resourceName_decomposes_and_suits_buckets`).

The eight digits that a name carries spell the first 32 bits of the identifier
(`Uuid.take_hex_eq_iff`): all that is said about them comes from that number.
-/
namespace CloudRehearsal

open Text

/-! ## Padded digits -/

/-- The digits in front are those of the number without the digits after them. -/
theorem Text.hexPadded_add (front back n : Nat) :
    hexPadded (front + back) n = hexPadded front (n / 16 ^ back) ++ hexPadded back n := by
  induction back generalizing n with
  | zero => simp [hexPadded]
  | succ back ih =>
    calc hexPadded (front + (back + 1)) n
      _ = hexPadded (front + back) (n / 16) ++ [Nat.digitChar (n % 16)] := rfl
      _ = hexPadded front (n / 16 / 16 ^ back) ++ hexPadded back (n / 16)
          ++ [Nat.digitChar (n % 16)] := by rw [ih]
      _ = hexPadded front (n / 16 ^ (back + 1)) ++ hexPadded (back + 1) n := by
        rw [Nat.div_div_eq_div_mul, ← Nat.pow_succ', List.append_assoc]
        rfl

theorem Text.hexPadded_inj {width m n : Nat} (hm : m < 16 ^ width) (hn : n < 16 ^ width) :
    hexPadded width m = hexPadded width n ↔ m = n := by
  refine ⟨fun h => ?_, fun h => h ▸ rfl⟩
  have hread : some (m % 16 ^ width) = some (n % 16 ^ width) := by
    rw [← numeral?_hexPadded, ← numeral?_hexPadded, h]
  rwa [Option.some.injEq, Nat.mod_eq_of_lt hm, Nat.mod_eq_of_lt hn] at hread

theorem Text.byteSize_digitChar : ∀ d < 16, (Nat.digitChar d).utf8Size = 1 := by decide

theorem Text.byteSize_hexPadded (width n : Nat) :
    (String.ofList (hexPadded width n)).utf8ByteSize = width := by
  induction width generalizing n with
  | zero => rfl
  | succ width ih =>
    rw [hexPadded, String.ofList_append, String.utf8ByteSize_append, ih, ← String.singleton_eq_ofList,
      String.utf8ByteSize_singleton, byteSize_digitChar _ (Nat.mod_lt n (by decide))]

/-! ## Identifiers -/

namespace Uuid

variable {u v : Uuid}

/-- The number that the digits in a name spell. -/
def leading (u : Uuid) : Nat := u.toNat / 16 ^ 24

theorem take_hex (u : Uuid) : u.hex.take suffixLength = hexPadded suffixLength u.leading := by
  rw [hex, show 32 = suffixLength + 24 from rfl, hexPadded_add,
    List.take_left' (length_hexPadded suffixLength _)]
  rfl

theorem leading_lt (u : Uuid) : u.leading < 16 ^ suffixLength := by
  have h : u.toNat < 2 ^ 128 := u.isLt
  unfold leading suffixLength
  omega

/-- The digits in a name are the first bits of the identifier, no more of them and no fewer. -/
theorem take_hex_eq_iff :
    u.hex.take suffixLength = v.hex.take suffixLength ↔ u >>> 96 = v >>> 96 := by
  have hbits : ∀ w : Uuid, (w >>> 96).toNat = w.leading := fun w => by
    rw [BitVec.toNat_ushiftRight, Nat.shiftRight_eq_div_pow]
    rfl
  rw [take_hex, take_hex, hexPadded_inj u.leading_lt v.leading_lt, ← BitVec.toNat_inj, hbits, hbits]

end Uuid

/-! ## Taking a name apart -/

variable {label other : String} {u v : Uuid}

theorem toList_resourceName (label : String) (u : Uuid) :
    (resourceName label u).toList = label.toList ++ '-' :: hexPadded suffixLength u.leading := by
  have hhyphen : "-".toList = ['-'] := rfl
  rw [resourceName, u.take_hex, String.toList_append, String.toList_append, hhyphen,
    String.toList_ofList, List.append_assoc]
  rfl

/-- The hyphen is found from the end of a name, so hyphens in the label do no harm. -/
theorem resourceName_eq_iff :
    resourceName label u = resourceName other v ↔
      label = other ∧ u.hex.take suffixLength = v.hex.take suffixLength := by
  rw [u.take_hex, v.take_hex]
  constructor
  · intro h
    rw [← String.toList_inj, toList_resourceName, toList_resourceName] at h
    obtain ⟨hlabel, hend⟩ := List.append_inj' h (by simp [length_hexPadded])
    exact ⟨String.toList_inj.1 hlabel, (List.cons.inj hend).2⟩
  · rintro ⟨rfl, h⟩
    rw [← String.toList_inj, toList_resourceName, toList_resourceName, h]

theorem byteSize_resourceName (label : String) (u : Uuid) :
    (resourceName label u).utf8ByteSize = label.utf8ByteSize + 9 := by
  have hhyphen : "-".utf8ByteSize = 1 := rfl
  rw [resourceName, u.take_hex, String.utf8ByteSize_append, String.utf8ByteSize_append, hhyphen,
    byteSize_hexPadded]
  rfl

/-! ## Names for buckets -/

namespace Buckets

/-- A character that the name of a bucket may begin and end with: a small letter or a digit. -/
def isNameEdge (c : Char) : Bool := ('a' ≤ c && c ≤ 'z') || isDigit c

/-- A character that the name of a bucket may hold. -/
def isNameChar (c : Char) : Bool := isNameEdge c || c == '.' || c == '-'

/-- What the provider takes for the name of a bucket. -/
structure ValidName (s : String) : Prop where
  atLeast : 3 ≤ s.utf8ByteSize
  atMost : s.utf8ByteSize ≤ 63
  chars : ∀ c ∈ s.toList, isNameChar c = true
  first : s.toList.head?.any isNameEdge = true
  last : s.toList.getLast?.any isNameEdge = true

instance (s : String) : Decidable (ValidName s) :=
  decidable_of_iff
    (3 ≤ s.utf8ByteSize ∧ s.utf8ByteSize ≤ 63 ∧ s.toList.all isNameChar = true ∧
      s.toList.head?.any isNameEdge = true ∧ s.toList.getLast?.any isNameEdge = true)
    ⟨fun ⟨atLeast, atMost, chars, first, last⟩ =>
        ⟨atLeast, atMost, List.all_eq_true.1 chars, first, last⟩,
      fun h => ⟨h.atLeast, h.atMost, List.all_eq_true.2 h.chars, h.first, h.last⟩⟩

theorem isNameEdge_digitChar : ∀ d < 16, isNameEdge (Nat.digitChar d) = true := by decide

theorem isNameChar_of_isNameEdge {c : Char} (h : isNameEdge c = true) : isNameChar c = true := by
  simp [isNameChar, h]

theorem isNameChar_of_mem_ending {width n : Nat} {c : Char} (h : c ∈ '-' :: hexPadded width n) :
    isNameChar c = true := by
  rcases List.mem_cons.1 h with rfl | h
  · rfl
  · obtain ⟨d, hd, rfl⟩ := exists_digit_of_mem_hexPadded h
    exact isNameChar_of_isNameEdge (isNameEdge_digitChar d hd)

theorem chars_resourceName_iff :
    (∀ c ∈ (resourceName label u).toList, isNameChar c = true) ↔
      ∀ c ∈ label.toList, isNameChar c = true := by
  rw [toList_resourceName, List.forall_mem_append]
  exact and_iff_left fun c hc => isNameChar_of_mem_ending hc

/-- Without a label the name begins with its hyphen. -/
theorem first_resourceName_iff :
    (resourceName label u).toList.head?.any isNameEdge = true ↔
      label.toList.head?.any isNameEdge = true := by
  rw [toList_resourceName]
  cases label.toList with
  | nil => exact iff_of_false Bool.false_ne_true Bool.false_ne_true
  | cons c cs => exact Iff.rfl

theorem last_resourceName (label : String) (u : Uuid) :
    (resourceName label u).toList.getLast?.any isNameEdge = true := by
  have hlast := isNameEdge_digitChar (u.leading % 16) (Nat.mod_lt _ (by decide))
  rw [toList_resourceName, suffixLength, hexPadded, ← List.cons_append, ← List.append_assoc,
    List.getLast?_concat]
  exact hlast

/-- A name suits a bucket when its label has room for the digits and could begin such a name. -/
theorem validName_resourceName_iff :
    ValidName (resourceName label u) ↔
      label ≠ "" ∧ label.utf8ByteSize ≤ 54 ∧ (∀ c ∈ label.toList, isNameChar c = true) ∧
        label.toList.head?.any isNameEdge = true := by
  have hsize := byteSize_resourceName label u
  constructor
  · intro h
    have hfirst := first_resourceName_iff.1 h.first
    refine ⟨?_, ?_, chars_resourceName_iff.1 h.chars, hfirst⟩
    · rintro rfl
      cases hfirst
    · have := h.atMost
      omega
  · rintro ⟨-, hroom, hchars, hfirst⟩
    exact ⟨by omega, by omega, chars_resourceName_iff.2 hchars, first_resourceName_iff.2 hfirst,
      last_resourceName label u⟩

-- small letters alone are not enough: a label may be too long, and it may be missing
example : ¬ ValidName (resourceName (String.ofList (List.replicate 55 'a')) 0) := by decide +kernel
example : ¬ ValidName (resourceName "" 0) := by decide

end Buckets

/-- **A name comes apart in one way, and suits a bucket as far as its label does.** Two names are equal
exactly when their labels are and the identifiers agree in their first eight digits, which are their
first 32 bits; so names with different labels never collide, whatever hyphens and digits are in the
labels. A name is one for a bucket exactly when its label is not empty, has at most 54 bytes, holds
small letters, decimal digits, dots and hyphens only, and begins with a letter or a digit. -/
theorem resourceName_decomposes_and_suits_buckets (p q : String) (u v : Uuid) :
    (resourceName p u = resourceName q v ↔ p = q ∧ u.hex.take 8 = v.hex.take 8) ∧
    (u.hex.take 8 = v.hex.take 8 ↔ u >>> 96 = v >>> 96) ∧
    (p ≠ q → resourceName p u ≠ resourceName q v) ∧
    (Buckets.ValidName (resourceName p u) ↔
      p ≠ "" ∧ p.utf8ByteSize ≤ 54 ∧ (∀ c ∈ p.toList, Buckets.isNameChar c = true) ∧
        p.toList.head?.any Buckets.isNameEdge = true) := by
  refine ⟨resourceName_eq_iff, Uuid.take_hex_eq_iff, fun hne heq => ?_,
    Buckets.validName_resourceName_iff⟩
  exact hne (resourceName_eq_iff.1 heq).1

end CloudRehearsal
