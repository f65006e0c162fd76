import CloudRehearsal.Client.Mail

/-!
The sum of the delivery counts. It is taken in 64 bits, and is the exact sum whenever that fits
(`total_toInt`), whatever the sums on the way are.
-/
namespace CloudRehearsal.Mail

/-- The sum of all counts in the integers. -/
def exactTotal (counts : List Int64) : Int := counts.foldr (fun c total => c.toInt + total) 0

theorem exactTotal_cons (c : Int64) (counts : List Int64) :
    exactTotal (c :: counts) = c.toInt + exactTotal counts := rfl

theorem exactTotal_replicate_one (n : Nat) : exactTotal (List.replicate n 1) = n := by
  induction n with
  | zero => rfl
  | succ n ih =>
    rw [List.replicate_succ, exactTotal_cons, ih, Int.add_comm]
    rfl

theorem foldl_add_eq (counts : List Int64) (a : Int64) :
    counts.foldl (· + ·) a = a + Int64.ofInt (exactTotal counts) := by
  induction counts generalizing a with
  | nil => exact (Int64.add_zero a).symm
  | cons c counts ih =>
    rw [List.foldl_cons, ih, exactTotal_cons, Int64.ofInt_add, Int64.ofInt_toInt, Int64.add_assoc]

/-- Sums in 64 bits are exact but for the wrapping of the last. -/
theorem total_eq (counts : List Int64) : total counts = Int64.ofInt (exactTotal counts) := by
  rw [total, foldl_add_eq, Int64.zero_add]

/-- Sums that fit are compared as they are. -/
theorem ofInt_lt_ofInt {a b : Int} (hl : Int64.minValue.toInt ≤ a) (hlt : a < b)
    (hu : b ≤ Int64.maxValue.toInt) : Int64.ofInt a < Int64.ofInt b := by
  have ha : (Int64.ofInt a).toInt = a :=
    Int64.toInt_ofInt_of_le hl (Int.lt_add_one_of_le (Int.le_trans (Int.le_of_lt hlt) hu))
  have hb : (Int64.ofInt b).toInt = b :=
    Int64.toInt_ofInt_of_le (Int.le_trans hl (Int.le_of_lt hlt)) (Int.lt_add_one_of_le hu)
  rw [Int64.lt_iff_toInt_lt, ha, hb]
  exact hlt

theorem total_toInt {counts : List Int64} (hl : Int64.minValue.toInt ≤ exactTotal counts)
    (hu : exactTotal counts ≤ Int64.maxValue.toInt) : (total counts).toInt = exactTotal counts := by
  rw [total_eq]
  exact Int64.toInt_ofInt_of_le hl (Int.lt_add_one_of_le hu)

end CloudRehearsal.Mail
