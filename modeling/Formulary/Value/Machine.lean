import Formulary.Value.Bits
import Formulary.Value.ComplexFunction
import Formulary.Value.Division
import Formulary.Value.Error
import Formulary.Expr.Basic

/-!
Arithmetic of machine numbers. The operands of an operation are brought to one common type first; a
plain number takes the type of the machine number beside it. Integers wrap around, and reals give
infinities and undefined numbers instead of errors.
-/

namespace Formulary

/-- The types of machine numbers. -/
inductive MachineType where
  | flag
  | word (w : Width)
  | real (p : Precision)
  | complex (p : Precision)
deriving DecidableEq, Repr

/-- An operand beside a machine number: one itself, or a plain number. -/
inductive Term where
  | machine (m : Machine)
  | int (n : Int)
  | float (x : Float)
  | complex (z : Complex)

namespace MachineType

/-- The type that reals take part in together with an integer type. -/
def realOfWord (w : Width) (p : Precision) : Precision :=
  match w with
  | .i8 => p
  | _ => .double

/-- The type that holds two integer types: an integer type if there is one. -/
def joinWords (a b : Width) : MachineType :=
  if a.signed = b.signed then .word (if a.bits < b.bits then b else a) else .real .double

/-- The precision of the parts of a complex number beside reals. -/
def complexPrecision (p : Precision) : Precision := p.max .single

def join : MachineType → MachineType → MachineType
  | .flag, t | t, .flag => t
  | .word a, .word b => joinWords a b
  | .word w, .real p | .real p, .word w => .real (realOfWord w p)
  | .real p, .real q => .real (p.max q)
  | .complex p, .word w | .word w, .complex p => .complex (realOfWord w p)
  | .complex p, .real q | .real q, .complex p => .complex (complexPrecision (p.max q))
  | .complex p, .complex q => .complex (p.max q)

def name : MachineType → String
  | .flag => "bool"
  | .word w => w.name
  | .real .half => "float16"
  | .real .single => "float32"
  | .real .double => "float64"
  | .complex .double => "complex128"
  | .complex _ => "complex64"

def text (t : MachineType) : String := s!"dtype('{t.name}')"

def className (t : MachineType) : String :=
  let name := match t with
    | .flag => "Bool"
    | .word .i8 => "Int8"
    | .word .i32 => "Int32"
    | .word .i64 => "Int64"
    | .word .u64 => "UInt64"
    | .word .ull => "ULongLong"
    | .real .half => "Float16"
    | .real .single => "Float32"
    | .real .double => "Float64"
    | .complex .double => "Complex128"
    | .complex _ => "Complex64"
  s!"<class 'numpy.dtypes.{name}DType'>"

def isExact : MachineType → Bool
  | .flag | .word _ => true
  | .real _ | .complex _ => false

end MachineType

def textTypeName (s : String) : String := s!"dtype('<U{max 1 s.length}')"

def textClassName : String := "<class 'numpy.dtypes.StrDType'>"

namespace Machine

def type : Machine → MachineType
  | .flag _ => .flag
  | .word w _ => .word w
  | .real p _ => .real p
  | .complex p _ => .complex p

/-- The number as an integer, if it is one. -/
def toInt? : Machine → Option Int
  | .flag b => some (if b then 1 else 0)
  | .word _ n => some n
  | _ => none

/-- The number as a real; a complex number gives its real part. -/
def toFloat : Machine → Float
  | .flag b => if b then 1 else 0
  | .word _ n => Binary.ofInt n
  | .real _ x => x
  | .complex _ z => z.re

def toComplex : Machine → Complex
  | .complex _ z => z
  | m => ⟨m.toFloat, 0⟩

def isTrue : Machine → Bool
  | .flag b => b
  | .word _ n => n != 0
  | .real _ x => x != 0
  | .complex _ z => !z.isZero

def ofComplex (p : Precision) (z : Complex) : Machine := .complex p ⟨p.round z.re, p.round z.im⟩

def cast (t : MachineType) (m : Machine) : Machine :=
  match t with
  | .flag => .flag m.isTrue
  | .word w => .word w (w.wrap (m.toInt?.getD 0))
  | .real p => .real p (p.round m.toFloat)
  | .complex p => ofComplex p m.toComplex

end Machine

namespace Term

def toInt? : Term → Option Int
  | .machine m => m.toInt?
  | .int n => some n
  | .float _ | .complex _ => none

/-- The type in which a term takes part beside a machine number of a type. -/
def typeBeside (t : MachineType) : Term → MachineType
  | .machine m => t.join m.type
  | .int _ => if t = .flag then .word .i64 else t
  | .float _ => if t.isExact then .real .double else t
  | .complex _ =>
    match t with
    | .flag | .word _ => .complex .double
    | .real p | .complex p => .complex (MachineType.complexPrecision p)

/-- An integer brought to an integer type, if it is in range. -/
def fitWord (w : Width) (n : Int) : Except EvalError Machine :=
  if w.holds n then .ok (.word w n)
  else if w != .i64 && Width.i64.holds n then .error (.intOutOfRange n w.name)
  else if w = .ull then .error .intTooBig
  else .error .intTooLargeForWord

def fitDouble (n : Int) : Except EvalError Float :=
  match Binary.ofInt? n with
  | some x => .ok x
  | none => .error .intTooLargeForReal

def toMachine (t : MachineType) : Term → Except EvalError Machine
  | .machine m => .ok (m.cast t)
  | .int n =>
    match t with
    | .flag => .ok (.flag (n != 0))
    | .word w => fitWord w n
    | .real p => return .real p (p.round (← fitDouble n))
    | .complex p => return Machine.ofComplex p ⟨← fitDouble n, 0⟩
  | .float x => .ok ((Machine.real .double x).cast t)
  | .complex z => .ok ((Machine.complex .double z).cast t)

end Term

namespace Machine

/-- The power of a machine integer, by its binary digits. -/
def wordPower (w : Width) (a : Int) (n : Nat) : Int :=
  let rec go : Nat → Nat → Int → Int → Int
    | 0, _, _, r => r
    | fuel + 1, n, p, r =>
      if n = 0 then r
      else go fuel (n / 2) (w.wrap (p * p)) (if n % 2 = 1 then w.wrap (r * p) else r)
  go 64 n a 1

def wordOp (op : BinaryOp) (w : Width) (a b : Int) : Except EvalError Machine :=
  let word := fun (n : Int) => Except.ok (Machine.word w (w.wrap n))
  let inside := 0 ≤ b ∧ b < w.bits
  match op with
  | .add => word (a + b)
  | .sub => word (a - b)
  | .mul => word (a * b)
  | .div => .ok (.real .double (Binary.ofInt a / Binary.ofInt b))
  | .floorDiv => word (if b = 0 then 0 else a.fdiv b)
  | .mod => word (if b = 0 then 0 else a.fmod b)
  | .power => if b < 0 then .error .negativeWordPower else word (wordPower w a b.toNat)
  | .shiftLeft => word (if inside then Bits.shiftLeft a b.toNat else 0)
  | .shiftRight =>
    word (if inside then Bits.shiftRight a b.toNat else if a < 0 then -1 else 0)
  | .bitAnd => word (Bits.and a b)
  | .bitOr => word (Bits.or a b)
  | .bitXor => word (Bits.xor a b)
  | .matMul => .error (.unsupported "matmul")

/-- Operations on truth values: sums are disjunctions and products conjunctions. -/
def flagOp (op : BinaryOp) (a b : Bool) : Except EvalError Machine :=
  match op with
  | .add | .bitOr => .ok (.flag (a || b))
  | .mul | .bitAnd => .ok (.flag (a && b))
  | .bitXor => .ok (.flag (a != b))
  | .sub => .error .flagDifference
  | op => wordOp op .i8 (if a then 1 else 0) (if b then 1 else 0)

/-- The name that an operation on machine numbers goes by in its errors. -/
def opName : BinaryOp → String
  | .add => "add"
  | .sub => "subtract"
  | .mul => "multiply"
  | .div => "divide"
  | .floorDiv => "floor_divide"
  | .mod => "remainder"
  | .power => "power"
  | .shiftLeft => "left_shift"
  | .shiftRight => "right_shift"
  | .bitAnd => "bitwise_and"
  | .bitOr => "bitwise_or"
  | .bitXor => "bitwise_xor"
  | .matMul => "matmul"

/-- The operation works on binary digits, and so on integers only. -/
def onDigits : BinaryOp → Bool
  | .shiftLeft | .shiftRight | .bitAnd | .bitOr | .bitXor => true
  | _ => false

def realOp (op : BinaryOp) (p : Precision) (a b : Float) : Except EvalError Machine :=
  let real := fun (x : Float) => Except.ok (Machine.real p (p.round x))
  match op with
  | .add => real (a + b)
  | .sub => real (a - b)
  | .mul => real (a * b)
  | .div => real (a / b)
  | .floorDiv => real (Division.machineDiv p.working.round a b)
  | .mod => real (Division.machineMod p.working.round a b)
  | .power => real (Float.pow a b)
  | op => .error (.unsupported (opName op))

def complexOp (op : BinaryOp) (p : Precision) (a b : Complex) : Except EvalError Machine :=
  let complex := fun (z : Complex) => Except.ok (ofComplex p z)
  match op with
  | .add => complex (a.add b)
  | .sub => complex (a.sub b)
  | .mul => complex (a.mulBy p.round b)
  | .div => complex (a.machineDiv p.round b)
  | .power => complex (a.machinePow p.round b)
  | op => .error (.unsupported (opName op))

def sameTypeOp (op : BinaryOp) : Machine → Machine → Except EvalError Machine
  | .flag a, .flag b => flagOp op a b
  | .word w a, .word _ b => wordOp op w a b
  | .real p a, .real _ b => realOp op p a b
  | .complex p a, b => complexOp op p a b.toComplex
  | a, b => complexOp op .double a.toComplex b.toComplex

/-- An operation on two terms that meet in a type. Integers are divided as reals. -/
def termOp (op : BinaryOp) (t : MachineType) (a b : Term) : Except EvalError Machine :=
  if onDigits op && !t.isExact then .error (.unsupported (opName op))
  else do
    let t := if op = .div && t.isExact then .real .double else t
    sameTypeOp op (← a.toMachine t) (← b.toMachine t)

def neg : Machine → Except EvalError Machine
  | .flag _ => .error .flagNegation
  | .word w n => .ok (.word w (w.wrap (-n)))
  | .real p x => .ok (.real p (-x))
  | .complex p z => .ok (.complex p z.neg)

def plus : Machine → Except EvalError Machine
  | .flag b => .error (.noLoop "positive" (Machine.flag b).type.className)
  | m => .ok m

def invert : Machine → Except EvalError Machine
  | .flag b => .ok (.flag !b)
  | .word w n => .ok (.word w (w.wrap (Bits.complement n)))
  | _ => .error (.unsupported "invert")

def abs : Machine → Machine
  | .word w n => .word w (w.wrap n.natAbs)
  | .real p x => .real p x.abs
  | .complex p z => .real p (p.round z.abs)
  | m => m

end Machine

end Formulary
