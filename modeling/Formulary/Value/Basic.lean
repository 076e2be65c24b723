import Formulary.Builtin

/-!
The values of formulas. Numbers written in a formula are *plain*: integers are exact and unbounded,
reals are doubles. The functions give *machine* numbers, which have a width: integers wrap around at
the ends of their range, and reals overflow to infinities without complaint. Integers also come in
tuples, as the ratio that a number is. There are no arrays: machine numbers and tuples do not meet.
-/

namespace Formulary

structure Complex where
  re : Float
  im : Float

/-- The types of machine integers. The last two have one range: `u64` is the usual type of unsigned
integers, and `ull` the type of written integers that no signed type holds. -/
inductive Width where
  | i8 | i32 | i64 | u64 | ull
deriving DecidableEq, Repr

namespace Width

def bits : Width → Nat
  | i8 => 8
  | i32 => 32
  | i64 | u64 | ull => 64

def size : Width → Nat
  | i8 => 256
  | i32 => 4294967296
  | i64 | u64 | ull => 18446744073709551616

def signed : Width → Bool
  | u64 | ull => false
  | i8 | i32 | i64 => true

def low (w : Width) : Int := if w.signed then -(w.size / 2 : Nat) else 0

def high (w : Width) : Int := w.low + w.size - 1

def holds (w : Width) (n : Int) : Bool := w.low ≤ n && n ≤ w.high

/-- The integer of the range that differs by a multiple of its size. -/
def wrap (w : Width) (n : Int) : Int :=
  if w.signed then Int.bmod n w.size else n % w.size

def name : Width → String
  | i8 => "int8"
  | i32 => "int32"
  | i64 => "int64"
  | u64 | ull => "uint64"

def typeName : Width → String
  | ull => "ulonglong"
  | w => w.name

theorem wrap_of_holds {w : Width} {n : Int} (h : w.holds n = true) : w.wrap n = n := by
  simp only [holds, Bool.and_eq_true, decide_eq_true_eq] at h
  obtain ⟨h1, h2⟩ := h
  cases w <;> simp only [low, high, wrap, signed, size, Int.bmod] at * <;> grind

end Width

/-- The precisions of machine reals. -/
inductive Precision where
  | half | single | double
deriving DecidableEq, Repr

namespace Precision

def format : Precision → Binary.Format
  | half => Binary.binary16
  | single => Binary.binary32
  | double => Binary.binary64

def round (p : Precision) (x : Float) : Float :=
  match p with
  | double => x
  | _ => Binary.narrow p.format x

def max : Precision → Precision → Precision
  | double, _ | _, double => double
  | single, _ | _, single => single
  | half, half => half

/-- The precision in which numbers of a precision are divided with a remainder. -/
def working : Precision → Precision
  | half | single => single
  | double => double

end Precision

/-- Numbers with a width: truth values, integers, reals and complex numbers. The parts of a complex
number are of single or double precision. -/
inductive Machine where
  | flag (b : Bool)
  | word (w : Width) (n : Int)
  | real (p : Precision) (x : Float)
  | complex (p : Precision) (z : Complex)

/-- Methods of values that a formula can call. -/
inductive Method where
  | conjugate | isInteger | bitLength | asIntegerRatio | upper | lower | strip
deriving DecidableEq, Repr

inductive Value where
  | int (n : Int)
  | bool (b : Bool)
  | float (x : Float)
  | complex (z : Complex)
  | machine (m : Machine)
  | text (s : String)
  | tuple (items : List Int)
  | none
  | ellipsis
  | function (f : Function)
  | method (receiver : Value) (m : Method)

namespace Value

def functionKind : Function → String
  | .min | .max => "builtin_function_or_method"
  | .round => "numpy._ArrayFunctionDispatcher"
  | _ => "numpy.ufunc"

def machineKind : Machine → String
  | .flag _ => "numpy.bool"
  | .word w _ => "numpy." ++ w.typeName
  | .real .half _ => "numpy.float16"
  | .real .single _ => "numpy.float32"
  | .real .double _ => "numpy.float64"
  | .complex .double _ => "numpy.complex128"
  | .complex _ _ => "numpy.complex64"

def kind : Value → String
  | .int _ => "int"
  | .bool _ => "bool"
  | .float _ => "float"
  | .complex _ => "complex"
  | .machine m => machineKind m
  | .text _ => "str"
  | .tuple _ => "tuple"
  | .none => "NoneType"
  | .ellipsis => "ellipsis"
  | .function f => functionKind f
  | .method .. => "builtin_function_or_method"

/-- The plain value of a machine number. -/
def ofMachine : Machine → Value
  | .flag b => .bool b
  | .word _ n => .int n
  | .real _ x => .float x
  | .complex _ z => .complex z

/-- The value with its width forgotten. -/
def plain : Value → Value
  | .machine m => ofMachine m
  | v => v

end Value

end Formulary
