import Formulary.Builtin
import Formulary.Formula.Basic

/-!
The source text of a formula. Two values next to each other multiply, and the caret is written as
the power sign of the expression language.
-/

namespace Formulary.Formula

/-- A text ends a value: it is a closing parenthesis or no operator at all. -/
def endsValue (text : String) : Bool := text == ")" || !isOperatorSymbol text

/-- A text starts a value: it is an opening parenthesis or no operator at all. -/
def startsValue (text : String) : Bool := text == "(" || !isOperatorSymbol text

/-- Two adjacent texts multiply, unless they are a function's name and the parenthesis of its
arguments. -/
def juxtaposed (left right : String) : Bool :=
  endsValue left && startsValue right && !(right == "(" && (Function.ofName? left).isSome)

/-- Puts a multiplication sign between juxtaposed texts. -/
def withProducts : List String → List String
  | [] => []
  | [x] => [x]
  | x :: y :: rest =>
    if juxtaposed x y then x :: "*" :: withProducts (y :: rest) else x :: withProducts (y :: rest)

def powerSigns (text : String) : String :=
  String.ofList (text.toList.flatMap fun c => if c = '^' then ['*', '*'] else [c])

def sourceOfTexts (texts : List String) : String :=
  powerSigns (" ".intercalate (withProducts texts))

/-- The source of a formula. -/
def toSource (s : List Token) : String := sourceOfTexts (s.map Token.display)

def entriesToSource (s : List Entry) : Except NotAToken String :=
  (s.mapM Entry.display).map sourceOfTexts

end Formulary.Formula
