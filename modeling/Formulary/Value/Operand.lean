import Formulary.Value.Machine

/-!
Operands: how two values meet. Plain numbers meet as integers, reals or complex numbers. A value beside
a machine number meets it in a machine type; values that are not numbers meet nothing.
-/

namespace Formulary

/-- Plain numbers; truth values count as zero and one. -/
inductive Plain where
  | int (n : Int)
  | float (x : Float)
  | complex (z : Complex)

namespace Plain

def toFloat? : Plain → Except EvalError Float
  | .int n => Term.fitDouble n
  | .float x => .ok x
  | .complex z => .ok z.re

def toComplex? : Plain → Except EvalError Complex
  | .complex z => .ok z
  | p => do return ⟨← p.toFloat?, 0⟩

def isComplex : Plain → Bool
  | .complex _ => true
  | _ => false

end Plain

namespace Value

def plain? : Value → Option Plain
  | .int n => some (.int n)
  | .bool b => some (.int (if b then 1 else 0))
  | .float x => some (.float x)
  | .complex z => some (.complex z)
  | _ => Option.none

/-- A value as an operand beside a machine number. A truth value is a machine number there. -/
def term? : Value → Option Term
  | .int n => some (.int n)
  | .bool b => some (.machine (.flag b))
  | .float x => some (.float x)
  | .complex z => some (.complex z)
  | .machine m => some (.machine m)
  | _ => Option.none

/-- The type in which two values meet, if one of them is a machine number. -/
def meet? (a b : Value) : Option (MachineType × Term × Term) :=
  match a, b with
  | .machine m, b => b.term?.map fun t => (t.typeBeside m.type, .machine m, t)
  | a, .machine m => a.term?.map fun t => (t.typeBeside m.type, t, .machine m)
  | _, _ => Option.none

/-- The truth of a value: numbers that are not zero, texts and tuples that are not empty, and functions. -/
def isTrue : Value → Bool
  | .int n => n != 0
  | .bool b => b
  | .float x => x != 0
  | .complex z => !z.isZero
  | .machine m => m.isTrue
  | .text s => !s.isEmpty
  | .tuple items => !items.isEmpty
  | .none => false
  | .ellipsis | .function _ | .method .. => true

def isMachine : Value → Bool
  | .machine _ => true
  | _ => false

def isText : Value → Bool
  | .text _ => true
  | _ => false

/-- The number of members: characters of a text, items of a tuple. -/
def length? : Value → Option Nat
  | .text s => some s.length
  | .tuple items => some items.length
  | _ => Option.none

end Value

end Formulary
