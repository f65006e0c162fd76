import CloudRehearsal.Text.Utf8

/-!
What is written as UTF-8 reads back: a character is read off its bytes (`front_utf8EncodeChar`), so the
bytes of a text spell that text (`lenient_bytes`).

The bytes are looked at by the width of the character, one lemma for each width. The bounds on a second
byte are those of the numbers that characters have: no overlong forms, no surrogates.
-/
namespace CloudRehearsal.Text.Utf8

/-! ## One character, by its width -/

theorem front_ascii {a : UInt8} (h : a.toNat ≤ 0x7f) (rest : List UInt8) :
    front a rest = .char (Char.ofNat a.toNat) rest := by
  have ha : a ≤ 0x7f := UInt8.le_iff_toNat_le.2 h
  simp [front, ha]

theorem front_two {a b : UInt8} (ha : 0xc2 ≤ a.toNat) (ha' : a.toNat ≤ 0xdf) (hb : isTail b = true)
    (rest : List UInt8) :
    front a (b :: rest) = .char (Char.ofNat (a.toNat % 32 * 64 + tailBits b)) rest := by
  have h₁ : ¬ a ≤ 0x7f := by rw [UInt8.le_iff_toNat_le]; simp; omega
  have h₂ : (a < 0xc2 || 0xf4 < a) = false := by simp [UInt8.lt_iff_toNat_lt]; omega
  have h₃ : a ≤ 0xdf := UInt8.le_iff_toNat_le.2 ha'
  simp [front, h₁, h₂, h₃, hb]

theorem front_three {a b c : UInt8} (ha : 0xe0 ≤ a.toNat) (ha' : a.toNat ≤ 0xef)
    (hb : fitsSecond a b = true) (hc : isTail c = true) (rest : List UInt8) :
    front a (b :: c :: rest) =
      .char (Char.ofNat ((a.toNat % 16 * 64 + tailBits b) * 64 + tailBits c)) rest := by
  have h₁ : ¬ a ≤ 0x7f := by rw [UInt8.le_iff_toNat_le]; simp; omega
  have h₂ : (a < 0xc2 || 0xf4 < a) = false := by simp [UInt8.lt_iff_toNat_lt]; omega
  have h₃ : ¬ a ≤ 0xdf := by rw [UInt8.le_iff_toNat_le]; simp; omega
  have h₄ : a ≤ 0xef := UInt8.le_iff_toNat_le.2 ha'
  simp [front, h₁, h₂, h₃, h₄, hb, hc]

theorem front_four {a b c d : UInt8} (ha : 0xf0 ≤ a.toNat) (ha' : a.toNat ≤ 0xf4)
    (hb : fitsSecond a b = true) (hc : isTail c = true) (hd : isTail d = true) (rest : List UInt8) :
    front a (b :: c :: d :: rest) =
      .char (Char.ofNat (((a.toNat % 8 * 64 + tailBits b) * 64 + tailBits c) * 64 + tailBits d))
        rest := by
  have h₁ : ¬ a ≤ 0x7f := by rw [UInt8.le_iff_toNat_le]; simp; omega
  have h₂ : (a < 0xc2 || 0xf4 < a) = false := by simp [UInt8.lt_iff_toNat_lt]; omega
  have h₃ : ¬ a ≤ 0xdf := by rw [UInt8.le_iff_toNat_le]; simp; omega
  have h₄ : ¬ a ≤ 0xef := by rw [UInt8.le_iff_toNat_le]; simp; omega
  simp [front, h₁, h₂, h₃, h₄, hb, hc, hd]

theorem fitsSecond_iff {a b : UInt8} :
    fitsSecond a b = true ↔
      (if a.toNat = 0xe0 then 0xa0 else if a.toNat = 0xf0 then 0x90 else 0x80) ≤ b.toNat ∧
      b.toNat ≤ if a.toNat = 0xed then 0x9f else if a.toNat = 0xf4 then 0x8f else 0xbf := by
  have heq (x : UInt8) : (a == x) = true ↔ a.toNat = x.toNat := by rw [beq_iff_eq, UInt8.toNat_inj]
  simp only [fitsSecond, secondBounds, Bool.and_eq_true, decide_eq_true_eq, UInt8.le_iff_toNat_le, heq]
  by_cases h₁ : a.toNat = 0xe0
  · simp [h₁]
  by_cases h₂ : a.toNat = 0xed
  · simp [h₂]
  by_cases h₃ : a.toNat = 0xf0
  · simp [h₃]
  by_cases h₄ : a.toNat = 0xf4
  · simp [h₄]
  · simp [h₁, h₂, h₃, h₄]

/-! ## The bytes of a character -/

theorem toNat_ofNat_of_lt {n : Nat} (h : n < 256) : (UInt8.ofNat n).toNat = n := by
  rw [UInt8.toNat_ofNat', Nat.mod_eq_of_lt h]

/-- A continuing byte carries six bits. -/
theorem isTail_ofNat {n : Nat} (h : n < 64) : isTail (UInt8.ofNat (n + 128)) = true := by
  have hn : (UInt8.ofNat (n + 128)).toNat = n + 128 := toNat_ofNat_of_lt (by omega)
  simp only [isTail, Bool.and_eq_true, decide_eq_true_eq, UInt8.le_iff_toNat_le, hn]
  simp
  omega

theorem tailBits_ofNat {n : Nat} (h : n < 64) : tailBits (UInt8.ofNat (n + 128)) = n := by
  rw [tailBits, toNat_ofNat_of_lt (by omega)]
  omega

/-! What each width encodes, by number. -/

theorem front_encoded_ascii {v : Nat} (h : v ≤ 0x7f) (rest : List UInt8) :
    front (UInt8.ofNat v) rest = .char (Char.ofNat v) rest := by
  have ha : (UInt8.ofNat v).toNat = v := toNat_ofNat_of_lt (by omega)
  have hf := front_ascii (a := UInt8.ofNat v) (by omega) rest
  rw [ha] at hf
  exact hf

theorem front_encoded_two {v : Nat} (h : 0x80 ≤ v) (h' : v ≤ 0x7ff) (rest : List UInt8) :
    front (UInt8.ofNat (v / 64 % 32 + 192)) (UInt8.ofNat (v % 64 + 128) :: rest) =
      .char (Char.ofNat v) rest := by
  have ha : (UInt8.ofNat (v / 64 % 32 + 192)).toNat = v / 64 % 32 + 192 :=
    toNat_ofNat_of_lt (by omega)
  have hb : v % 64 < 64 := Nat.mod_lt _ (by omega)
  have hf := front_two (a := UInt8.ofNat (v / 64 % 32 + 192)) (by omega) (by omega) (isTail_ofNat hb)
    rest
  have hn : (v / 64 % 32 + 192) % 32 * 64 + v % 64 = v := by omega
  rw [ha, tailBits_ofNat hb, hn] at hf
  exact hf

/-- The surrogates are no characters, and the second byte shows it. -/
theorem front_encoded_three {v : Nat} (h : 0x800 ≤ v) (h' : v ≤ 0xffff)
    (hv : v < 0xd800 ∨ 0xdfff < v) (rest : List UInt8) :
    front (UInt8.ofNat (v / 4096 % 16 + 224))
        (UInt8.ofNat (v / 64 % 64 + 128) :: UInt8.ofNat (v % 64 + 128) :: rest) =
      .char (Char.ofNat v) rest := by
  have ha : (UInt8.ofNat (v / 4096 % 16 + 224)).toNat = v / 4096 % 16 + 224 :=
    toNat_ofNat_of_lt (by omega)
  have hb' : (UInt8.ofNat (v / 64 % 64 + 128)).toNat = v / 64 % 64 + 128 :=
    toNat_ofNat_of_lt (by omega)
  have hb : v / 64 % 64 < 64 := Nat.mod_lt _ (by omega)
  have hc : v % 64 < 64 := Nat.mod_lt _ (by omega)
  have hfit : fitsSecond (UInt8.ofNat (v / 4096 % 16 + 224)) (UInt8.ofNat (v / 64 % 64 + 128)) =
      true := by
    rw [fitsSecond_iff, ha, hb']
    repeat' split
    all_goals omega
  have hf := front_three (by omega) (by omega) hfit (isTail_ofNat hc) rest
  have hn : ((v / 4096 % 16 + 224) % 16 * 64 + v / 64 % 64) * 64 + v % 64 = v := by omega
  rw [ha, tailBits_ofNat hb, tailBits_ofNat hc, hn] at hf
  exact hf

theorem front_encoded_four {v : Nat} (h : 0x10000 ≤ v) (h' : v ≤ 0x10ffff) (rest : List UInt8) :
    front (UInt8.ofNat (v / 262144 % 8 + 240)) (UInt8.ofNat (v / 4096 % 64 + 128) ::
        UInt8.ofNat (v / 64 % 64 + 128) :: UInt8.ofNat (v % 64 + 128) :: rest) =
      .char (Char.ofNat v) rest := by
  have ha : (UInt8.ofNat (v / 262144 % 8 + 240)).toNat = v / 262144 % 8 + 240 :=
    toNat_ofNat_of_lt (by omega)
  have hb' : (UInt8.ofNat (v / 4096 % 64 + 128)).toNat = v / 4096 % 64 + 128 :=
    toNat_ofNat_of_lt (by omega)
  have hb : v / 4096 % 64 < 64 := Nat.mod_lt _ (by omega)
  have hc : v / 64 % 64 < 64 := Nat.mod_lt _ (by omega)
  have hd : v % 64 < 64 := Nat.mod_lt _ (by omega)
  have hfit : fitsSecond (UInt8.ofNat (v / 262144 % 8 + 240))
      (UInt8.ofNat (v / 4096 % 64 + 128)) = true := by
    rw [fitsSecond_iff, ha, hb']
    repeat' split
    all_goals omega
  have hf := front_four (by omega) (by omega) hfit (isTail_ofNat hc) (isTail_ofNat hd) rest
  have hn : (((v / 262144 % 8 + 240) % 8 * 64 + v / 4096 % 64) * 64 + v / 64 % 64) * 64 + v % 64 =
      v := by omega
  rw [ha, tailBits_ofNat hb, tailBits_ofNat hc, tailBits_ofNat hd, hn] at hf
  exact hf

/-- **A character is read off its bytes**, whatever follows them. -/
theorem front_utf8EncodeChar (c : Char) (rest : List UInt8) :
    ∃ a after, String.utf8EncodeChar c = a :: after ∧ front a (after ++ rest) = .char c rest := by
  have hv : c.val.toNat < 0xd800 ∨ 0xdfff < c.val.toNat ∧ c.val.toNat < 0x110000 := c.valid
  have hc : Front.char (Char.ofNat c.val.toNat) rest = .char c rest := by
    rw [show Char.ofNat c.val.toNat = c from Char.ofNat_toNat c]
  unfold String.utf8EncodeChar
  by_cases h₁ : c.val.toNat ≤ 127
  · rw [if_pos h₁]
    exact ⟨_, _, rfl, (front_encoded_ascii h₁ rest).trans hc⟩
  by_cases h₂ : c.val.toNat ≤ 2047
  · rw [if_neg h₁, if_pos h₂]
    exact ⟨_, _, rfl, (front_encoded_two (by omega) h₂ rest).trans hc⟩
  by_cases h₃ : c.val.toNat ≤ 65535
  · rw [if_neg h₁, if_neg h₂, if_pos h₃]
    exact ⟨_, _, rfl, (front_encoded_three (by omega) h₃ (by omega) rest).trans hc⟩
  · rw [if_neg h₁, if_neg h₂, if_neg h₃]
    exact ⟨_, _, rfl, (front_encoded_four (by omega) (by omega) rest).trans hc⟩

/-! ## Texts -/

theorem readLeniently_flatMap (found cs : List Char) :
    readLeniently found (cs.flatMap String.utf8EncodeChar) = found.reverse ++ cs := by
  induction cs generalizing found with
  | nil => simp [readLeniently]
  | cons c cs ih =>
    obtain ⟨a, after, hb, hf⟩ := front_utf8EncodeChar c (cs.flatMap String.utf8EncodeChar)
    rw [List.flatMap_cons, hb, List.cons_append, readLeniently, hf]
    simp [ih]

theorem lenient_bytes (s : String) : lenient (bytes s) = s := by
  rw [lenient, bytes, readLeniently_flatMap, List.reverse_nil, List.nil_append, String.ofList_toList]

theorem bytes_eq (s : String) : bytes s = s.toUTF8.data.toList := by
  have h : (bytes s).toByteArray = s.toUTF8 := String.utf8Encode_toList
  rw [← h, List.data_toByteArray]

end CloudRehearsal.Text.Utf8
