/-!
Data of a character standard, written as rows of hexadecimal numbers: rows are parted by `;` and
the numbers of a row by a space. An interval that holds one code point is written as one number.
-/

namespace Formulary.Text

/-- The value of a hexadecimal digit in capitals; every other character counts as zero. -/
def hexDigit (c : Char) : Nat :=
  if '0' ≤ c ∧ c ≤ '9' then c.toNat - '0'.toNat
  else if 'A' ≤ c ∧ c ≤ 'F' then c.toNat - 'A'.toNat + 10
  else 0

/-- The number that a word of hexadecimal digits writes. -/
def hexNumber (word : String) : Nat :=
  word.toList.foldl (fun n c => 16 * n + hexDigit c) 0

/-- The rows of a table. -/
def hexRows (text : String) : List (List Nat) :=
  (text.splitOn ";").map fun row => (row.splitOn " ").map hexNumber

/-- The closed intervals of a table. -/
def hexIntervals (text : String) : List (Nat × Nat) :=
  (hexRows text).filterMap fun
    | [lo] => some (lo, lo)
    | lo :: hi :: _ => some (lo, hi)
    | [] => none

/-- Some interval holds the code point. -/
def covered (intervals : List (Nat × Nat)) (n : Nat) : Bool :=
  intervals.any fun (lo, hi) => lo ≤ n && n ≤ hi

end Formulary.Text
