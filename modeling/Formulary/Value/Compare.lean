import Formulary.Value.Operand

/-!
Comparison of values. Plain integers and reals are compared exactly; beside a machine real an
integer is rounded first. Plain complex numbers and values of different kinds are not ordered, while
machine numbers of every type are.
-/

namespace Formulary

def compareFloatInt (x : Float) (n : Int) : Option Ordering :=
  match Binary.decode x with
  | .nan => none
  | .infinite negative => some (if negative then .lt else .gt)
  | .finite negative m q => some (Binary.compareInt negative m q n)

def compareFloats (x y : Float) : Option Ordering :=
  if x < y then some .lt else if y < x then some .gt else if x == y then some .eq else none

namespace Plain

def compare? : Plain → Plain → Option Ordering
  | .int m, .int n => some (compare m n)
  | .float x, .int n => compareFloatInt x n
  | .int m, .float y => (compareFloatInt y m).map Ordering.swap
  | .float x, .float y => compareFloats x y
  | _, _ => none

def beq (a b : Plain) : Bool :=
  match a, b with
  | .complex z, .complex w => z.beq w
  | .complex z, q => z.im == 0 && compare? (.float z.re) q == some .eq
  | p, .complex w => w.im == 0 && compare? p (.float w.re) == some .eq
  | p, q => compare? p q == some .eq

end Plain

/-- The order of two numbers of a machine type; complex numbers go by their real parts first, and have
an order only if all parts are numbers. -/
def compareMachines (a b : Machine) : Option Ordering :=
  match a.toInt?, b.toInt? with
  | some m, some n => some (compare m n)
  | _, _ =>
    match a, b with
    | .complex _ z, .complex _ w =>
      match compareFloats z.re w.re with
      | some .eq => compareFloats z.im w.im
      | o => if z.im.isNaN || w.im.isNaN then none else o
    | a, b => compareFloats a.toFloat b.toFloat

/-- The order of two terms, at least one of them a machine number. An integer out of range of an
integer type still has its place there; beside a truth value and a real it must be in range. -/
def compareTerms (t : MachineType) (a b : Term) : Except EvalError (Option Ordering) :=
  let isFlag : Term → Bool := fun
    | .machine (.flag _) => true
    | _ => false
  match a.toInt?, b.toInt? with
  | some m, some n => do
    if isFlag a || isFlag b then
      let _ ← a.toMachine t
      let _ ← b.toMachine t
    return some (compare m n)
  | _, _ => do return compareMachines (← a.toMachine t) (← b.toMachine t)

def CompareOp.holds : CompareOp → Option Ordering → Bool
  | .eq, o => o == some .eq
  | .ne, o => o != some .eq
  | .lt, o => o == some .lt
  | .le, o => o == some .lt || o == some .eq
  | .gt, o => o == some .gt
  | .ge, o => o == some .gt || o == some .eq
  | _, _ => false

def CompareOp.sign : CompareOp → String
  | .eq => "=="
  | .ne => "!="
  | .lt => "<"
  | .le => "<="
  | .gt => ">"
  | .ge => ">="
  | .same => "is"
  | .notSame => "is not"
  | .within => "in"
  | .notWithin => "not in"

def CompareOp.mirrored : CompareOp → CompareOp
  | .lt => .gt
  | .le => .ge
  | .gt => .lt
  | .ge => .le
  | op => op

/-- The name that a comparison of machine numbers goes by in its errors. -/
def CompareOp.loopName : CompareOp → String
  | .lt => "less"
  | .le => "less_equal"
  | .gt => "greater"
  | .ge => "greater_equal"
  | .ne => "not_equal"
  | _ => "equal"

namespace Value

def sameOther : Value → Value → Bool
  | .text s, .text t => s == t
  | .tuple s, .tuple t => s == t
  | .none, .none => true
  | .ellipsis, .ellipsis => true
  | .function f, .function g => f == g
  | _, _ => false

/-- Equality and order of plain numbers. -/
def comparePlain (op : CompareOp) (a b : Value) (p q : Plain) : Except EvalError Value :=
  match op with
  | .eq => .ok (.bool (p.beq q))
  | .ne => .ok (.bool !(p.beq q))
  | op =>
    if p.isComplex || q.isComplex then .error (.notOrdered op.sign a.kind b.kind)
    else .ok (.bool (op.holds (p.compare? q)))

/-- A machine number and a value that is no number are not ordered. The machine number is told first,
and by its plain kind; beside a text it is told by its type. -/
def machineOrderError (op : CompareOp) (m : Machine) (v : Value) : EvalError :=
  match v with
  | .text _ => .noLoop op.loopName s!"({m.type.className}, {textClassName})"
  | v => .notOrdered op.sign (ofMachine m).kind v.kind

def compareOther (op : CompareOp) (a b : Value) : Except EvalError Value :=
  match op, a, b with
  | .eq, a, b => .ok (.bool (sameOther a b))
  | .ne, a, b => .ok (.bool !(sameOther a b))
  | op, .text s, .text t => .ok (.bool (op.holds (some (compareOfLessAndEq s t))))
  | op, .tuple s, .tuple t => .ok (.bool (op.holds (some (Ord.compare s t))))
  | op, .machine m, b => .error (machineOrderError op m b)
  | op, a, .machine m => .error (machineOrderError op.mirrored m a)
  | op, a, b => .error (.notOrdered op.sign a.kind b.kind)

/-- Equality and order. A plain complex number in front of a machine double is equated as a plain
number. -/
def compareWith (op : CompareOp) (a b : Value) : Except EvalError Value :=
  match op, a, b with
  | .eq, .complex z, .machine (.real .double x) | .ne, .complex z, .machine (.real .double x) =>
    comparePlain op a b (.complex z) (.float x)
  | op, a, b =>
    match meet? a b with
    | some (t, x, y) => return .machine (.flag (op.holds (← compareTerms t x y)))
    | Option.none =>
      match a.plain?, b.plain? with
      | some p, some q => comparePlain op a b p q
      | _, _ => compareOther op a b

def isPartOf (s : List Char) : List Char → Bool
  | [] => s.isEmpty
  | c :: rest => s.isPrefixOf (c :: rest) || isPartOf s rest

/-- Membership: texts hold their parts, and tuples what equals an item. -/
def isWithin (item container : Value) : Except EvalError Bool :=
  match container, item with
  | .text t, .text s => .ok (isPartOf s.toList t.toList)
  | .text _, v => .error (.textWithin v.kind)
  | .tuple items, v => items.anyM fun n => (compareWith .eq (.int n) v).map isTrue
  | c, _ => .error (.notAContainer c.kind)

/-- Two values are one: small integers, truth values, functions and the other constants are, texts of
at most one character, and tuples without items. -/
def isSame : Value → Value → Bool
  | .int m, .int n => m == n && -5 ≤ m && m ≤ 256
  | .bool a, .bool b => a == b
  | .machine (.flag a), .machine (.flag b) => a == b
  | .none, .none => true
  | .ellipsis, .ellipsis => true
  | .function f, .function g => f == g
  | .text s, .text t => s == t && s.length ≤ 1
  | .tuple s, .tuple t => s.isEmpty && t.isEmpty
  | _, _ => false

/-- A comparison; `alike` says that both sides are the same variable. -/
def compare (op : CompareOp) (alike : Bool) (a b : Value) : Except EvalError Value :=
  match op with
  | .same => .ok (.bool (alike || isSame a b))
  | .notSame => .ok (.bool !(alike || isSame a b))
  | .within => (isWithin a b).map .bool
  | .notWithin => (isWithin a b).map fun r => .bool !r
  | op => compareWith op a b

end Value

end Formulary
