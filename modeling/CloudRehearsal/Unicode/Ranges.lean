import CloudRehearsal.Text.Basic

/-!
Sets of code points, kept as runs in increasing order that do not overlap.

A table is written as text: code points in hexadecimal, a hyphen between the ends of a run, blanks
between the runs. Looking up a code point halves the table until one run is left.
-/
namespace CloudRehearsal.Unicode

open Text

/-- The code point that hexadecimal digits spell. -/
def codePoint (cs : List Char) : Nat := (numeral? 16 cs).getD 0

/-- The code points from `first` to `last`. -/
structure Run where
  first : Nat
  last : Nat
  deriving Repr

/-- Reads `41` or `41-5a`. -/
def Run.ofChars (cs : List Char) : Run :=
  match cutAt? (· == '-') cs with
  | some (first, last) => ⟨codePoint first, codePoint last⟩
  | none => ⟨codePoint cs, codePoint cs⟩

/-- The last entry that starts at `code` or before, in a table ordered by where entries start. -/
def lastFrom? {α : Type} (table : Array α) (start : α → Nat) (code : Nat) : Option α :=
  search 0 table.size
where
  /-- All entries below `low` start early enough, and none from `high` on does. -/
  search (low high : Nat) : Option α :=
    if low < high then
      let middle := (low + high) / 2
      match table[middle]? with
      | none => none
      | some entry => if start entry ≤ code then search (middle + 1) high else search low middle
    else if low = 0 then none
    else table[low - 1]?
  termination_by high - low

/-- A set of code points. -/
structure Ranges where
  runs : Array Run

namespace Ranges

/-- Reads the written form of a set. -/
def ofText (s : String) : Ranges := ⟨((words s).map Run.ofChars).toArray⟩

/-- The character is in the set. -/
def contains (r : Ranges) (c : Char) : Bool :=
  match lastFrom? r.runs Run.first c.toNat with
  | some run => c.toNat ≤ run.last
  | none => false

end Ranges

end CloudRehearsal.Unicode
