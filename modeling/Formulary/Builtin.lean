import Formulary.Decimal.Style

/-!
The names that every formula may use: functions and constants, and the example variables that are
bound when no scope is given.
-/

namespace Formulary

/-- The functions a formula can call. -/
inductive Function where
  | sqrt | cbrt | sin | cos | tan | asin | acos | atan | sinh | cosh | tanh
  | exp | log | log10 | log2 | abs | floor | ceil | round | min | max
deriving DecidableEq, Repr

namespace Function

def all : List Function :=
  [sqrt, cbrt, sin, cos, tan, asin, acos, atan, sinh, cosh, tanh,
    exp, log, log10, log2, abs, floor, ceil, round, min, max]

def name : Function → String
  | sqrt => "sqrt"
  | cbrt => "cbrt"
  | sin => "sin"
  | cos => "cos"
  | tan => "tan"
  | asin => "asin"
  | acos => "acos"
  | atan => "atan"
  | sinh => "sinh"
  | cosh => "cosh"
  | tanh => "tanh"
  | exp => "exp"
  | log => "log"
  | log10 => "log10"
  | log2 => "log2"
  | abs => "abs"
  | floor => "floor"
  | ceil => "ceil"
  | round => "round"
  | min => "min"
  | max => "max"

def ofName? (s : String) : Option Function := all.find? (·.name = s)

end Function

/-- The constants of every formula. -/
inductive Constant where
  | pi | e | tau | infinity
deriving DecidableEq, Repr

namespace Constant

def all : List Constant := [pi, e, tau, infinity]

def name : Constant → String
  | pi => "pi"
  | e => "e"
  | tau => "tau"
  | infinity => "Infinity"

/-- The double nearest to the constant. -/
def value : Constant → Float
  | pi => Float.ofBits 0x400921FB54442D18
  | e => Float.ofBits 0x4005BF0A8B145769
  | tau => Float.ofBits 0x401921FB54442D18
  | infinity => Binary.infinity false

def ofName? (s : String) : Option Constant := all.find? (·.name = s)

end Constant

end Formulary
