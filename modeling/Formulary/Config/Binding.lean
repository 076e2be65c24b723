import Formulary.Scope
import Formulary.Text.Identifier
import Formulary.Value.Written

/-!
Bindings as text, `NAME=VALUE`. A name is an identifier, a value is an integer if it reads as one and
else a double; blanks around either part are dropped. Several bindings make a scope, where a later
one of a name overrides an earlier one.
-/

namespace Formulary

/-- Why a text is no binding. -/
inductive BindingError where
  /-- The equals sign, the name or the value is missing. -/
  | incomplete (text : String)
  | badName (name : String)
  | badValue (name value : String)
deriving DecidableEq, Repr

def BindingError.message : BindingError → String
  | incomplete text => s!"Invalid binding {Text.quoted text}, expected NAME=VALUE"
  | badName name => s!"Invalid variable name {Text.quoted name}"
  | badValue name value => s!"Invalid value for {Text.quoted name}: {Text.quoted value}"

/-- The number that a text is read as: an integer if possible, else a double. -/
def readNumber? (s : String) : Option Value :=
  match Decimal.readInt s with
  | .ok n => some (.int n)
  | .error _ => (Decimal.readFloat? s).map .float

/-- The parts before and after the first equals sign, the second one with the sign. -/
def splitBinding (s : String) : List Char × List Char := s.toList.span (· ≠ '=')

/-- Reads one binding. -/
def parseBinding (s : String) : Except BindingError (String × Value) :=
  let (before, rest) := splitBinding s
  let name := Text.trim (String.ofList before)
  let value := Text.trim (String.ofList (rest.drop 1))
  if rest.isEmpty || name.isEmpty || value.isEmpty then .error (.incomplete s)
  else if !Text.isIdentifier name.toList then .error (.badName name)
  else
    match readNumber? value with
    | some v => .ok (name, v)
    | none => .error (.badValue name value)

/-- Reads several bindings as a scope; the first one that cannot be read is reported. -/
def parseScope (bindings : List String) : Except BindingError Scope :=
  Scope.ofList <$> bindings.mapM parseBinding

end Formulary
