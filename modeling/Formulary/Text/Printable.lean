import Formulary.Text.Printable.Table

/-!
Which characters are shown as they are when a text is quoted.
-/

namespace Formulary.Text

/-- The character has a printed form; of the separators only the plain space has one. -/
def isPrintable (c : Char) : Bool :=
  let n := c.toNat
  if n < 128 then 32 ≤ n && n < 127 else !covered unprintableIntervals n

end Formulary.Text
