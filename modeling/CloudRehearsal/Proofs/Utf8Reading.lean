import CloudRehearsal.Proofs.Utf8Text
import Mathlib.Order.Bounds.Basic

/-!
What a byte sequence reads as. It reads as a text exactly when it is the encoding of one
(`text?_eq_ok_iff`), which is when it is well-formed UTF-8 in the sense of the library
(`wellFormed_iff`). A reading that fails has stopped after the longest text at the start
(`longestText_of_error`), and it reports an incomplete sequence exactly when the sequence is a text but
for the end of its last character (`width_eq_none_iff`).

A sequence is characters up to where nothing more is read (`exists_chars_append`), and what stops a
reading there depends on the bytes from there on alone. So each fact needs one look at the front of a
sequence, and no second walk over the bytes.
-/
namespace CloudRehearsal.Text.Utf8

/-! ## The bytes that are read

The widths as in the encoding, the other way round: what the bounds on the bytes leave of the numbers.
-/

theorem isTail_iff {b : UInt8} : isTail b = true ↔ 0x80 ≤ b.toNat ∧ b.toNat ≤ 0xbf := by
  simp [isTail, UInt8.le_iff_toNat_le]

theorem bounds_of_fitsSecond {a b : UInt8} (h : fitsSecond a b = true) :
    0x80 ≤ b.toNat ∧ b.toNat ≤ 0xbf ∧ (a.toNat = 0xe0 → 0xa0 ≤ b.toNat) ∧
      (a.toNat = 0xed → b.toNat ≤ 0x9f) ∧ (a.toNat = 0xf0 → 0x90 ≤ b.toNat) ∧
      (a.toNat = 0xf4 → b.toNat ≤ 0x8f) := by
  obtain ⟨hlow, hhigh⟩ := fitsSecond_iff.1 h
  grind

theorem toNat_val_ofNat {v : Nat} (h : v < 0xd800 ∨ 0xdfff < v ∧ v < 0x110000) :
    (Char.ofNat v).val.toNat = v := by
  have hv : v.isValidChar := h
  have hlt : v < 2 ^ 32 := by omega
  rw [Char.ofNat, dif_pos hv]
  rfl

theorem ofNat_eq_of_toNat {n : Nat} {a : UInt8} (h : n = a.toNat) : UInt8.ofNat n = a := by
  rw [h, UInt8.ofNat_toNat]

theorem encoded_ascii {a : UInt8} (h : a.toNat ≤ 0x7f) :
    String.utf8EncodeChar (Char.ofNat a.toNat) = [a] := by
  have hv : (Char.ofNat a.toNat).val.toNat = a.toNat := toNat_val_ofNat (by omega)
  simp only [String.utf8EncodeChar, hv]
  rw [if_pos h, UInt8.ofNat_toNat]

theorem encoded_two {a b : UInt8} (ha : 0xc2 ≤ a.toNat) (ha' : a.toNat ≤ 0xdf)
    (hb : isTail b = true) :
    String.utf8EncodeChar (Char.ofNat (a.toNat % 32 * 64 + tailBits b)) = [a, b] := by
  rw [isTail_iff] at hb
  simp only [tailBits]
  have hv := toNat_val_ofNat (v := a.toNat % 32 * 64 + b.toNat % 64) (by omega)
  simp only [String.utf8EncodeChar, hv]
  rw [if_neg (by omega), if_pos (by omega), ofNat_eq_of_toNat (a := a) (by omega),
    ofNat_eq_of_toNat (a := b) (by omega)]

/-- The second byte rules out the overlong forms and the surrogates. -/
theorem encoded_three {a b c : UInt8} (ha : 0xe0 ≤ a.toNat) (ha' : a.toNat ≤ 0xef)
    (hb : fitsSecond a b = true) (hc : isTail c = true) :
    String.utf8EncodeChar (Char.ofNat ((a.toNat % 16 * 64 + tailBits b) * 64 + tailBits c)) =
      [a, b, c] := by
  rw [isTail_iff] at hc
  have hb := bounds_of_fitsSecond hb
  simp only [tailBits]
  have hv := toNat_val_ofNat
    (v := (a.toNat % 16 * 64 + b.toNat % 64) * 64 + c.toNat % 64) (by omega)
  simp only [String.utf8EncodeChar, hv]
  rw [if_neg (by omega), if_neg (by omega), if_pos (by omega),
    ofNat_eq_of_toNat (a := a) (by omega), ofNat_eq_of_toNat (a := b) (by omega),
    ofNat_eq_of_toNat (a := c) (by omega)]

/-- The second byte rules out the overlong forms and the numbers above the last code point. -/
theorem encoded_four {a b c d : UInt8} (ha : 0xf0 ≤ a.toNat) (ha' : a.toNat ≤ 0xf4)
    (hb : fitsSecond a b = true) (hc : isTail c = true) (hd : isTail d = true) :
    String.utf8EncodeChar
        (Char.ofNat (((a.toNat % 8 * 64 + tailBits b) * 64 + tailBits c) * 64 + tailBits d)) =
      [a, b, c, d] := by
  rw [isTail_iff] at hc hd
  have hb := bounds_of_fitsSecond hb
  simp only [tailBits]
  have hv := toNat_val_ofNat
    (v := ((a.toNat % 8 * 64 + b.toNat % 64) * 64 + c.toNat % 64) * 64 + d.toNat % 64) (by omega)
  simp only [String.utf8EncodeChar, hv]
  rw [if_neg (by omega), if_neg (by omega), if_neg (by omega),
    ofNat_eq_of_toNat (a := a) (by omega), ofNat_eq_of_toNat (a := b) (by omega),
    ofNat_eq_of_toNat (a := c) (by omega), ofNat_eq_of_toNat (a := d) (by omega)]

/-! ## The front of a sequence -/

theorem toNat_lt_of_not_le {a b : UInt8} (h : ¬ a ≤ b) : b.toNat < a.toNat :=
  UInt8.lt_iff_toNat_lt.1 (UInt8.not_le.1 h)

theorem bounds_of_first {a : UInt8} (h : ¬ (a < 0xc2 || 0xf4 < a) = true) :
    0xc2 ≤ a.toNat ∧ a.toNat ≤ 0xf4 := by
  simpa [UInt8.le_iff_toNat_le] using h

theorem eq_append_of_front_char {a : UInt8} {after rest : List UInt8} {c : Char}
    (h : front a after = .char c rest) : a :: after = String.utf8EncodeChar c ++ rest := by
  unfold front at h
  repeat' split at h
  all_goals cases h
  -- the four ways in which a character is read, by its width
  · rename_i hone
    rw [encoded_ascii (UInt8.le_iff_toNat_le.1 hone)]
    rfl
  · rename_i hfirst htwo _ _ hb
    rw [encoded_two (bounds_of_first hfirst).1 (UInt8.le_iff_toNat_le.1 htwo) hb]
    rfl
  · rename_i htwo hthree _ _ hb _ _ hc
    rw [encoded_three (toNat_lt_of_not_le htwo) (UInt8.le_iff_toNat_le.1 hthree) hb hc]
    rfl
  · rename_i hfirst _ hthree _ _ hb _ _ hc _ _ hd
    rw [encoded_four (toNat_lt_of_not_le hthree) (bounds_of_first hfirst).2 hb hc hd]
    rfl

theorem front_append_of_stray {a : UInt8} {after rest : List UInt8} {width : Nat}
    (h : front a after = .stray width rest) (more : List UInt8) :
    front a (after ++ more) = .stray width (rest ++ more) := by
  unfold front at h
  repeat' split at h
  all_goals cases h
  all_goals simp [front, *]

theorem fitsSecond_lowest (a : UInt8) : fitsSecond a (secondBounds a).1 = true := by
  unfold fitsSecond secondBounds
  repeat' split
  all_goals decide

/-- What is cut off at the end of a sequence can be completed, whatever of it is there. -/
theorem exists_front_append_of_cut {a : UInt8} {after : List UInt8} (h : front a after = .cut) :
    ∃ more c, more ≠ [] ∧ front a (after ++ more) = .char c [] := by
  have ht : isTail 0x80 = true := by decide
  have hs := fitsSecond_lowest a
  unfold front at h
  repeat' split at h
  all_goals cases h
  · exact ⟨[0x80], _, by simp, by simp [front, *]; rfl⟩
  · exact ⟨[(secondBounds a).1, 0x80], _, by simp, by simp [front, *]; rfl⟩
  · exact ⟨[0x80], _, by simp, by simp [front, *]; rfl⟩
  · exact ⟨[(secondBounds a).1, 0x80, 0x80], _, by simp, by simp [front, *]; rfl⟩
  · exact ⟨[0x80, 0x80], _, by simp, by simp [front, *]; rfl⟩
  · exact ⟨[0x80], _, by simp, by simp [front, *]; rfl⟩

/-! ## Well-formed sequences -/

/-- The bytes are those of a sequence of characters. -/
def WellFormed (bs : List UInt8) : Prop := bs.toByteArray.IsValidUTF8

theorem wellFormed_flatMap (cs : List Char) : WellFormed (cs.flatMap String.utf8EncodeChar) :=
  ⟨cs, rfl⟩

theorem WellFormed.exists_chars {bs : List UInt8} (h : WellFormed bs) :
    ∃ cs : List Char, bs = cs.flatMap String.utf8EncodeChar := by
  obtain ⟨cs, hcs⟩ := h
  refine ⟨cs, ?_⟩
  have hd : bs.toByteArray.data = (cs.flatMap String.utf8EncodeChar).toByteArray.data :=
    congrArg ByteArray.data hcs
  simpa [List.data_toByteArray] using hd

/-! ## Reading on -/

/-- Nothing is read off the sequence: bytes are stray, or its only character is cut off. -/
inductive Stops : Option Nat → List UInt8 → Prop where
  | stray {a : UInt8} {after rest : List UInt8} {width : Nat}
      (h : front a after = .stray width rest) : Stops (some width) (a :: after)
  | cut {a : UInt8} {after : List UInt8} (h : front a after = .cut) : Stops none (a :: after)

variable (index : Nat) (found : List Char)

theorem readFrom_char {a : UInt8} {after rest : List UInt8} {c : Char}
    (h : front a after = .char c rest) :
    readFrom index found (a :: after) =
      readFrom (index + (String.utf8EncodeChar c).length) (c :: found) rest := by
  have hlen := congrArg List.length (eq_append_of_front_char h)
  simp only [List.length_cons, List.length_append] at hlen
  rw [readFrom, h]
  simp only
  congr 2
  omega

theorem readFrom_of_stops {width : Option Nat} {bs : List UInt8} (h : Stops width bs) :
    readFrom index found bs = .error ⟨index, width⟩ := by
  cases h with
  | stray h => rw [readFrom, h]
  | cut h => rw [readFrom, h]

theorem readFrom_flatMap (cs : List Char) (rest : List UInt8) :
    readFrom index found (cs.flatMap String.utf8EncodeChar ++ rest) =
      readFrom (index + (cs.flatMap String.utf8EncodeChar).length) (cs.reverse ++ found) rest := by
  induction cs generalizing index found with
  | nil => simp
  | cons c cs ih =>
    obtain ⟨a, after, hc, hf⟩ :=
      front_utf8EncodeChar c (cs.flatMap String.utf8EncodeChar ++ rest)
    rw [List.flatMap_cons, hc, List.append_assoc, List.cons_append, readFrom_char _ _ hf, ih, hc,
      List.length_append, List.reverse_cons, List.append_assoc, Nat.add_assoc]
    rfl

/-- A sequence is characters up to its end, or up to where nothing more is read. -/
theorem exists_chars_append : ∀ bs : List UInt8, ∃ (cs : List Char) (rest : List UInt8),
    bs = cs.flatMap String.utf8EncodeChar ++ rest ∧ (rest = [] ∨ ∃ width, Stops width rest)
  | [] => ⟨[], [], rfl, .inl rfl⟩
  | a :: after => by
    cases hf : front a after with
    | char c rest =>
      have hlt : rest.length ≤ after.length := length_of_front_char hf
      obtain ⟨cs, rest', hrest, hend⟩ := exists_chars_append rest
      refine ⟨c :: cs, rest', ?_, hend⟩
      rw [eq_append_of_front_char hf, hrest, List.flatMap_cons, List.append_assoc]
    | stray width rest => exact ⟨[], a :: after, rfl, .inr ⟨_, .stray hf⟩⟩
    | cut => exact ⟨[], a :: after, rfl, .inr ⟨_, .cut hf⟩⟩
termination_by bs => bs.length
decreasing_by
  simp
  omega

/-! ## What a sequence reads as -/

theorem chars?_flatMap (cs : List Char) : chars? (cs.flatMap String.utf8EncodeChar) = .ok cs := by
  have h := readFrom_flatMap 0 [] cs []
  rw [List.append_nil] at h
  rw [chars?, h, readFrom, List.append_nil, List.reverse_reverse]

theorem chars?_of_stops (cs : List Char) {width : Option Nat} {rest : List UInt8}
    (h : Stops width rest) : chars? (cs.flatMap String.utf8EncodeChar ++ rest) =
      .error ⟨(cs.flatMap String.utf8EncodeChar).length, width⟩ := by
  rw [chars?, readFrom_flatMap, readFrom_of_stops _ _ h, Nat.zero_add]

variable {bs : List UInt8} {fault : Fault}

theorem text?_eq_ok_iff {s : String} : text? bs = .ok s ↔ bytes s = bs := by
  constructor
  · intro h
    obtain ⟨cs, rest, rfl, rfl | ⟨width, hstop⟩⟩ := exists_chars_append bs
    · rw [List.append_nil, text?, chars?_flatMap] at h
      cases h
      rw [bytes, String.toList_ofList, List.append_nil]
    · rw [text?, chars?_of_stops _ hstop] at h
      cases h
  · rintro rfl
    rw [bytes, text?, chars?_flatMap, Except.map, String.ofList_toList]

theorem wellFormed_iff : WellFormed bs ↔ ∃ s, text? bs = .ok s := by
  constructor
  · intro h
    obtain ⟨cs, rfl⟩ := h.exists_chars
    exact ⟨String.ofList cs, by rw [text?, chars?_flatMap, Except.map]⟩
  · rintro ⟨s, hs⟩
    rw [← text?_eq_ok_iff.1 hs]
    exact wellFormed_flatMap _

/-! ## Where a reading stops -/

/-- The sequence begins with a text of so many bytes, and with no longer one. -/
def LongestText (bs : List UInt8) (n : Nat) : Prop :=
  IsGreatest {n | ∃ start, start <+: bs ∧ WellFormed start ∧ start.length = n} n

theorem LongestText.unique {m n : Nat} (hm : LongestText bs m) (hn : LongestText bs n) : m = n :=
  IsGreatest.unique hm hn

/-- The sequence is a text up to its last character, of which something is missing at the end. -/
def EndsInside (bs : List UInt8) : Prop :=
  ∃ (whole : String) (c : Char) (part missing : List UInt8), part ≠ [] ∧ missing ≠ [] ∧
    String.utf8EncodeChar c = part ++ missing ∧ bs = bytes whole ++ part

/-- A reading that fails has stopped after the characters at the start. -/
theorem exists_stops (h : text? bs = .error fault) :
    ∃ (cs : List Char) (rest : List UInt8), bs = cs.flatMap String.utf8EncodeChar ++ rest ∧
      Stops fault.width rest ∧ fault.index = (cs.flatMap String.utf8EncodeChar).length := by
  obtain ⟨cs, rest, rfl, rfl | ⟨width, hstop⟩⟩ := exists_chars_append bs
  · rw [List.append_nil, text?, chars?_flatMap] at h
    cases h
  · rw [text?, chars?_of_stops _ hstop] at h
    cases h
    exact ⟨cs, rest, rfl, hstop, rfl⟩

/-- No text at the start of a sequence is longer than what is read of it. -/
theorem length_le_of_wellFormed (h : text? bs = .error fault) {start : List UInt8}
    (hstart : start <+: bs) (hw : WellFormed start) : start.length ≤ fault.index := by
  obtain ⟨after, rfl⟩ := hstart
  obtain ⟨cs, rfl⟩ := hw.exists_chars
  obtain ⟨cs', rest, rfl, hend⟩ := exists_chars_append after
  rw [← List.append_assoc, ← List.flatMap_append] at h
  rcases hend with rfl | ⟨width, hstop⟩
  · rw [List.append_nil, text?, chars?_flatMap] at h
    cases h
  · rw [text?, chars?_of_stops _ hstop] at h
    cases h
    simp only [List.flatMap_append, List.length_append]
    omega

theorem longestText_of_error (h : text? bs = .error fault) : LongestText bs fault.index := by
  obtain ⟨cs, rest, hbs, -, hindex⟩ := exists_stops h
  constructor
  · exact ⟨_, ⟨rest, hbs.symm⟩, wellFormed_flatMap cs, hindex.symm⟩
  · rintro n ⟨start, hstart, hw, rfl⟩
    exact length_le_of_wellFormed h hstart hw

/-- What stops for stray bytes stops there whatever follows. -/
theorem Stops.append {width : Nat} {rest : List UInt8} (h : Stops (some width) rest)
    (more : List UInt8) : Stops (some width) (rest ++ more) := by
  cases h with
  | stray h => exact .stray (front_append_of_stray h more)

/-- The sequence is incomplete exactly when it only ends inside a character. -/
theorem width_eq_none_iff (h : text? bs = .error fault) : fault.width = none ↔ EndsInside bs := by
  obtain ⟨cs, rest, rfl, hstop, -⟩ := exists_stops h
  constructor
  · intro hnone
    rw [hnone] at hstop
    cases hstop with
    | @cut a after hcut =>
      obtain ⟨more, c, hmore, hfront⟩ := exists_front_append_of_cut hcut
      have hc := eq_append_of_front_char hfront
      rw [List.append_nil, ← List.cons_append] at hc
      refine ⟨String.ofList cs, c, a :: after, more, List.cons_ne_nil _ _, hmore, hc.symm, ?_⟩
      rw [bytes, String.toList_ofList]
  · rintro ⟨whole, c, part, missing, -, -, hc, hbs⟩
    cases hw : fault.width with
    | none => rfl
    | some width =>
      -- with the missing bytes this would be a text, but stray bytes stay stray
      rw [hw] at hstop
      have hread : chars? (cs.flatMap String.utf8EncodeChar ++ (rest ++ missing)) =
          .ok (whole.toList ++ [c]) := by
        rw [← List.append_assoc, hbs, List.append_assoc, ← hc, bytes, ← chars?_flatMap,
          List.flatMap_append, List.flatMap_singleton]
      rw [chars?_of_stops _ (hstop.append missing)] at hread
      cases hread

end CloudRehearsal.Text.Utf8
