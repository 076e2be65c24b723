import Formulary.Decimal.Numeral
import Formulary.Failure
import Formulary.Value.Error
import Formulary.Value.Basic

/-!
The text of values: as the formula language writes them, and as results are displayed. On display a
number is written by its size alone: a whole number prints the same as an integer and as a real, and
from `10^21` on numbers have an exponent. Numbers can always be displayed, but the items of a tuple are
written in full, and one may be too long for that.
-/

namespace Formulary

open Binary (decode binary64)

def storedTextLength : Nat := 1000000000

/-- The text of an integer, if it is not too long to be written. -/
def writeInt (n : Int) : Except EvalError String :=
  if Nat.pow 10 Decimal.maxIntegerDigits ≤ n.natAbs then .error .tooManyDigits else .ok (toString n)

/-- Integers from here on are displayed with an exponent. -/
def plainIntegerLimit : Nat := Nat.pow 10 21

def displayFloat (x : Float) : String :=
  match Binary.toInt? x with
  | some n =>
    if n.natAbs < plainIntegerLimit then toString n
    else Decimal.displayStyle.write binary64 (decode x)
  | none => Decimal.displayStyle.write binary64 (decode x)

def displayInt (n : Int) : String :=
  if n.natAbs < plainIntegerLimit then toString n
  else
    match Binary.ofInt? n with
    | some x => displayFloat x
    | none => if 0 < n then "Infinity" else "-Infinity"

def writeReal (st : Decimal.Style) (p : Precision) (x : Float) : String :=
  match decode x with
  | .finite negative m q =>
    let (up, down) := Binary.twoPower q
    match p.format.round? (m * up) down with
    | some (m, q) => st.write p.format (.finite negative m q)
    | none => st.write binary64 (decode x)
  | d => st.write binary64 d

/-- The text of a complex number: the imaginary part alone if the real part is a positive zero. -/
def writeComplex (p : Precision) (z : Complex) : String :=
  let imaginary := writeReal Decimal.partStyle p z.im
  if z.re == 0 && !Binary.isNegative z.re then imaginary ++ "j"
  else
    let sign := if imaginary.startsWith "-" then "" else "+"
    "(" ++ writeReal Decimal.partStyle p z.re ++ sign ++ imaginary ++ "j)"

def writeFunction : Function → String
  | .min => "<built-in function min>"
  | .max => "<built-in function max>"
  | .round => "<function round>"
  | .abs => "<ufunc 'absolute'>"
  | .asin => "<ufunc 'arcsin'>"
  | .acos => "<ufunc 'arccos'>"
  | .atan => "<ufunc 'arctan'>"
  | f => s!"<ufunc '{f.name}'>"

def writeTuple (items : List Int) : Except EvalError String := do
  let texts ← items.mapM writeInt
  let tail := if texts.length = 1 then "," else ""
  return "(" ++ ", ".intercalate texts ++ tail ++ ")"

namespace Value

/-- The text of a value in the formula language, without quotes around texts. -/
def write : Value → Except EvalError String
  | .int n => writeInt n
  | .bool b => .ok (if b then "True" else "False")
  | .float x => .ok (Decimal.source x)
  | .complex z => .ok (writeComplex .double z)
  | .machine (.flag b) => .ok (if b then "True" else "False")
  | .machine (.word _ n) => .ok (toString n)
  | .machine (.real p x) => .ok (writeReal Decimal.sourceStyle p x)
  | .machine (.complex p z) => .ok (writeComplex p z)
  | .text s => .ok s
  | .tuple items => writeTuple items
  | .none => .ok "None"
  | .ellipsis => .ok "Ellipsis"
  | .function f => .ok (writeFunction f)
  | .method .. => .ok "<built-in method>"

def display? (v : Value) : Except EvalError String :=
  match v.plain with
  | .int n => .ok (displayInt n)
  | .bool b => .ok (if b then "true" else "false")
  | .float x => .ok (displayFloat x)
  | .complex z => .ok (writeComplex .double z)
  | .text s => .ok s
  | .tuple items => writeTuple items
  | .none => .ok "None"
  | .ellipsis => .ok "Ellipsis"
  | .function f => .ok (writeFunction f)
  | .method .. => .ok "<built-in method>"
  | .machine _ => .ok ""

/-- What is shown of a value: its text, or why it has none. -/
def display (v : Value) : String :=
  match v.display? with
  | .ok s => s
  | .error e => EvaluationFailure.message ⟨"", e.describe⟩

/-- The text of a value in the formula language, with quotes around texts and the width of a machine
number told. -/
def source (v : Value) : Except EvalError String :=
  match v with
  | .text s => .ok (Text.quoted s)
  | .machine (.flag b) => .ok (if b then "np.True_" else "np.False_")
  | .machine m =>
    let name := (v.kind.splitOn ".").getLastD ""
    (Value.machine m).write.map fun t => s!"np.{name}({t})"
  | v => v.write

end Value

end Formulary
