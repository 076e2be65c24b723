import Formulary.Token

/-!
Formulas as sequences of tokens, and their edits. An index outside the sequence, negative ones
included, never removes anything, and a token inserted there goes to the end.
-/

namespace Formulary.Formula

variable {α : Type}

/-- Inserts at an index from zero to the length, else at the end. -/
def insert (s : List α) (t : α) (index : Option Int) : List α :=
  match index with
  | some i => if 0 ≤ i ∧ i ≤ s.length then s.take i.toNat ++ t :: s.drop i.toNat else s ++ [t]
  | none => s ++ [t]

def removeLast (s : List α) : List α := s.dropLast

/-- Removes at an index of the sequence; any other index changes nothing. -/
def removeAt (s : List α) (i : Int) : List α :=
  if 0 ≤ i ∧ i < s.length then s.take i.toNat ++ s.drop (i.toNat + 1) else s

def endsInOperator (s : List Token) : Bool := s.getLast?.any Token.isOperator

def entriesEndInOperator (s : List Entry) : Bool :=
  s.getLast?.any fun
    | .token t => t.isOperator
    | .foreign _ => false

/-- The texts of the tokens, with single spaces between. -/
def render (s : List Token) : String := " ".intercalate (s.map Token.display)

def renderEntries (s : List Entry) : Except NotAToken String :=
  (s.mapM Entry.display).map (" ".intercalate ·)

end Formulary.Formula
