import Formulary.Text.Identifier.Table
import Formulary.Text.Table

/-!
Identifiers: a letter or underscore, then letters, digits, marks and underscores, after the Unicode
properties of identifiers.
-/

namespace Formulary.Text

def isIdentifierStart (c : Char) : Bool :=
  if c.toNat < 128 then c.isAlpha || c == '_' else covered startIntervals c.toNat

def isIdentifierPart (c : Char) : Bool :=
  if c.toNat < 128 then c.isAlphanum || c == '_' else covered continueIntervals c.toNat

/-- The number of characters of the longest start of the text that is an identifier. -/
def identifierLength : List Char → Nat
  | [] => 0
  | c :: cs => if isIdentifierStart c then 1 + (cs.takeWhile isIdentifierPart).length else 0

def isIdentifier : List Char → Bool
  | [] => false
  | c :: cs => isIdentifierStart c && cs.all isIdentifierPart

end Formulary.Text
