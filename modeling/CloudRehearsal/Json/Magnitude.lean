import CloudRehearsal.Json.Scan

/-!
Numbers that are too great for a double. What counts is a number's reading: the digits that fit an
unsigned number of 64 bits and a power of ten, which are rounded each and then multiplied. Near the
greatest double the reading may come out on the other side of the exact number.

`Number.isHuge` holds when the reading is not finite.
-/
namespace CloudRehearsal.Json

open Text

/-! ## Doubles -/

/-- The nearest number of at most 53 significant bits; of two that are equally near, the one whose
last bit is zero. -/
def nearestDouble (n : Nat) : Nat :=
  let unit := Nat.pow 2 (Nat.log2 n - 52)
  let below := n / unit
  let rest := n % unit
  if unit < 2 * rest ∨ (unit = 2 * rest ∧ below % 2 = 1) then (below + 1) * unit
  else below * unit

/-- The greatest double and half a step: from here on a product is not finite. -/
def infinite : Nat := Nat.pow 2 1024 - Nat.pow 2 970

/-- The greatest power of ten that is a double. -/
def greatestPower : Nat := 308

/-! ## Readings -/

/-- A significand times a power of ten. -/
structure Reading where
  significand : Nat
  power : Int
  deriving DecidableEq, Repr

namespace Reading

/-- The value of a decimal digit. -/
def digitOf (c : Char) : Nat := (digit? 10 c).getD 0

/-- One digit more, when the significand still fits. -/
def push? (r : Reading) (c : Char) : Option Nat :=
  let n := r.significand * 10 + digitOf c
  if n < Nat.pow 2 64 then some n else none

/-- Reads digits before the point. From the first that does not fit they count as places alone. -/
def whole (r : Reading) : List Char → Reading
  | [] => r
  | c :: cs =>
    match r.push? c with
    | some n => whole { r with significand := n } cs
    | none => { r with power := r.power + (cs.length + 1) }

/-- Reads digits after the point. From the first that does not fit they are left out. -/
def fraction (r : Reading) : List Char → Reading
  | [] => r
  | c :: cs =>
    match r.push? c with
    | some n => fraction ⟨n, r.power - 1⟩ cs
    | none => r

/-- The reading of a number. -/
def ofNumber (n : Number) : Reading :=
  let r := fraction (whole ⟨0, 0⟩ n.whole) (n.fraction.getD [])
  match n.exponent with
  | some (negative, digits) =>
    let e : Int := (numeral? 10 digits).getD 0
    { r with power := if negative then r.power - e else r.power + e }
  | none => r

/-- The reading is too great for a double. -/
def isHuge (r : Reading) : Bool :=
  r.significand ≠ 0 && 0 ≤ r.power
    && (greatestPower < r.power.toNat
      || infinite ≤ nearestDouble r.significand * nearestDouble (Nat.pow 10 r.power.toNat))

end Reading

/-- The number is too great for a double. -/
def Number.isHuge (n : Number) : Bool := (Reading.ofNumber n).isHuge

end CloudRehearsal.Json
