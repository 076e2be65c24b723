import Formulary.Json.Write

/-!
Tokens: the operators, a closed set, and operands, which have a name and may carry an identifier. A
token is told to be an operator in two ways that can differ: by what it is, and by how it reads.
-/

namespace Formulary

inductive Operator where
  | plus | minus | star | slash | caret | lparen | rparen
deriving DecidableEq, Repr

namespace Operator

def all : List Operator := [plus, minus, star, slash, caret, lparen, rparen]

def symbol : Operator → String
  | plus => "+"
  | minus => "-"
  | star => "*"
  | slash => "/"
  | caret => "^"
  | lparen => "("
  | rparen => ")"

def ofSymbol? (text : String) : Option Operator := all.find? (·.symbol = text)

end Operator

/-- A text reads as an operator. -/
def isOperatorSymbol (text : String) : Bool := (Operator.ofSymbol? text).isSome

/-- A named value; `id` is the identifier that came with it. -/
structure Operand where
  name : String
  id : Option String := none
deriving DecidableEq, Repr

inductive Token where
  | operator (op : Operator)
  | operand (x : Operand)
deriving DecidableEq, Repr

/-- What a token is drawn as. -/
inductive TokenKind where
  | operator | operand
deriving DecidableEq, Repr

namespace Token

def display : Token → String
  | operator op => op.symbol
  | operand x => x.name

/-- A token is drawn by what it reads as. -/
def kind (t : Token) : TokenKind := if isOperatorSymbol t.display then .operator else .operand

/-- An operator's symbol gives the operator, every other text an operand without identifier. -/
def ofText (text : String) : Token :=
  match Operator.ofSymbol? text with
  | some op => operator op
  | none => operand { name := text }

def isOperator : Token → Bool
  | operator _ => true
  | operand _ => false

theorem display_ofText (text : String) : (ofText text).display = text := by
  unfold ofText
  split
  · rename_i op h
    simpa [display] using List.find?_some h
  · rfl

end Token

/-- What is handed in where a token is meant: a token, or a value that is none. -/
inductive Entry where
  | token (t : Token)
  | foreign (v : Json)

/-- A value was found where a token is meant. -/
structure NotAToken where
  value : Json

def NotAToken.message (e : NotAToken) : String := "Not a formula token: " ++ e.value.source

def Entry.display : Entry → Except NotAToken String
  | .token t => .ok t.display
  | .foreign v => .error ⟨v⟩

def Entry.kind : Entry → Except NotAToken TokenKind
  | .token t => .ok t.kind
  | .foreign v => .error ⟨v⟩

end Formulary
