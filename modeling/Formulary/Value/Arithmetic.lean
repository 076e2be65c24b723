import Formulary.Value.Compare
import Formulary.Value.Template

/-!
Operations on values. Plain integers are exact, a quotient of integers is rounded once, and an
integer that meets a real is rounded to one. Division by zero gives an infinity or an undefined
number, and a power that overflows an infinity.
-/

namespace Formulary

def BinaryOp.sign : BinaryOp → String
  | .add => "+"
  | .sub => "-"
  | .mul => "*"
  | .div => "/"
  | .floorDiv => "//"
  | .mod => "%"
  | .power => "** or pow()"
  | .shiftLeft => "<<"
  | .shiftRight => ">>"
  | .bitAnd => "&"
  | .bitOr => "|"
  | .bitXor => "^"
  | .matMul => "@"

/-- The operation divides with a whole quotient, which complex numbers do not have. -/
def BinaryOp.isWhole : BinaryOp → Bool
  | .floorDiv | .mod => true
  | _ => false

/-- Plain complex numbers have the operation. -/
def BinaryOp.isForComplex : BinaryOp → Bool
  | .add | .sub | .mul | .div | .power => true
  | _ => false

namespace Value

/-- An operation of plain numbers that meet as integers, reals or complex numbers. -/
def plainOp (onInts : Int → Int → Except EvalError Value)
    (onFloats : Float → Float → Except EvalError Value)
    (onComplex : Complex → Complex → Except EvalError Value) :
    Plain → Plain → Except EvalError Value
  | .int m, .int n => onInts m n
  | .complex z, q => do onComplex z (← q.toComplex?)
  | p, .complex z => do onComplex (← p.toComplex?) z
  | p, q => do onFloats (← p.toFloat?) (← q.toFloat?)

/-- A machine complex number of a precision refuses to be divided with a whole quotient, or to divide
so; a truth value and a wider real do not leave that to it. -/
def refusesWhole (p : Precision) : Value → Bool
  | .machine (.flag _) => false
  | .machine (.complex ..) => true
  | .machine m => (MachineType.complex p).join m.type = .complex p
  | _ => true

/-- Both operands leave an operation to each other. -/
def isRefused (op : BinaryOp) (a b : Value) : Bool :=
  op.isWhole &&
    match a, b with
    | .machine (.complex p _), v | v, .machine (.complex p _) => refusesWhole p v
    | _, _ => false

/-- Why an operation on a text and a machine number fails: they have no type in common, which sums and
differences tell by the types. -/
def textOperandError (op : BinaryOp) (a b : Value) : EvalError :=
  let typeOf : Value → String := fun
    | .machine m => m.type.text
    | .text s => textTypeName s
    | v => v.kind
  match op with
  | .add | .sub | .mul => .noLoop (Machine.opName op) s!"({typeOf a}, {typeOf b})"
  | op => .unsupported (Machine.opName op)

def machineOp (op : BinaryOp) (a b : Value) : Except EvalError Value :=
  if isRefused op a b then .error (.operands op.sign a.kind b.kind)
  else
    match meet? a b with
    | some (t, x, y) => (Machine.termOp op t x y).map .machine
    | Option.none =>
      if a.isText || b.isText then .error (textOperandError op a b)
      else .error (.operands op.sign a.plain.kind b.plain.kind)

/-- An operation on numbers: by the plain rule, or as machine numbers. A plain complex number in front
of a machine double takes it as a plain number. -/
def numberOp (op : BinaryOp) (onPlain : Plain → Plain → Except EvalError Value) (a b : Value) :
    Except EvalError Value :=
  match a, b with
  | .complex z, .machine (.real .double x) =>
    if op.isForComplex then onPlain (.complex z) (.float x) else machineOp op a b
  | a, b =>
    if a.isMachine || b.isMachine then machineOp op a b
    else
      match a.plain?, b.plain? with
      | some p, some q => onPlain p q
      | _, _ => .error (.operands op.sign a.kind b.kind)

def maxTextLength : Nat := 100000

def addNumbers (a b : Value) : Except EvalError Value :=
  numberOp .add (plainOp (fun m n => .ok (.int (m + n))) (fun x y => .ok (.float (x + y)))
    (fun z w => .ok (.complex (z.add w)))) a b

def areTooLong (a b : Value) : Bool :=
  match a.length?, b.length? with
  | some m, some n => maxTextLength < m + n
  | _, _ => false

def add (a b : Value) : Except EvalError Value :=
  if areTooLong a b then .error .sumTooLong
  else
    match a, b with
    | .text s, .text t => .ok (.text (s ++ t))
    | .text _, b => if b.isMachine then machineOp .add a b else .error (.joinText b.kind)
    | .tuple s, .tuple t => .ok (.tuple (s ++ t))
    | .tuple _, b => .error (.joinTuple b.kind)
    | a, b => addNumbers a b

def sub (a b : Value) : Except EvalError Value :=
  numberOp .sub (plainOp (fun m n => .ok (.int (m - n))) (fun x y => .ok (.float (x - y)))
    (fun z w => .ok (.complex (z.sub w)))) a b

def mulNumbers (a b : Value) : Except EvalError Value :=
  numberOp .mul (plainOp (fun m n => .ok (.int (m * n))) (fun x y => .ok (.float (x * y)))
    (fun z w => .ok (.complex (z.mul w)))) a b

/-- A value that counts members, or says how often something is done. -/
def index? : Value → Option Int
  | .int n => some n
  | .bool b => some (if b then 1 else 0)
  | .machine m => m.toInt?
  | _ => Option.none

/-- Members repeated. First the length of the result is asked for, which must not be too long. -/
def repeated {α : Type} (members : List α) (v : Value) : Except EvalError (List α) :=
  match v.length? with
  | some _ => .error (.notOrdered ">" v.kind "int")
  | Option.none => do
    let size ← mulNumbers v (.int members.length)
    let long ← compareWith .gt size (.int maxTextLength)
    if long.isTrue then throw .productTooLong
    match v.index? with
    | some n =>
      if !Width.i64.holds n then throw (.countTooLarge v.kind)
      let length := n.toNat * members.length
      if length = 0 then return []
      if !Width.i64.holds length then throw .repeatedTextTooLong
      if storedTextLength < length then throw .outOfMemory
      return (List.replicate n.toNat members).flatten
    | Option.none => throw (.repeatText v.kind)

def mul (a b : Value) : Except EvalError Value :=
  match a, b with
  | .text s, v => (repeated s.toList v).map fun cs => .text (String.ofList cs)
  | .tuple items, v => (repeated items v).map .tuple
  | v, .text s => (repeated s.toList v).map fun cs => .text (String.ofList cs)
  | v, .tuple items => (repeated items v).map .tuple
  | a, b => mulNumbers a b

/-- The quotient of integers rounded once to a double. -/
def divideInts (m n : Int) : Except EvalError Float :=
  let negative := decide (m < 0) != decide (n < 0)
  let x := Binary.nearest Binary.binary64 negative m.natAbs n.natAbs
  if Binary.isInfinite x then .error .quotientTooLarge
  else .ok x

/-- The quotient of plain numbers; nothing if the divisor is zero. -/
def quotient? (a b : Plain) : Except EvalError (Option Value) :=
  match a, b with
  | .int m, .int n =>
    if n = 0 then .ok Option.none else (divideInts m n).map fun x => some (.float x)
  | .complex z, q => do return (z.div? (← q.toComplex?)).map .complex
  | p, .complex w => do return ((← p.toComplex?).div? w).map .complex
  | p, q => do
    let x ← p.toFloat?
    let y ← q.toFloat?
    return if y == 0 then Option.none else some (.float (x / y))

/-- What a number divided by zero is: undefined for zero and for what is undefined itself, else the
infinity whose sign is the product of the signs. -/
def overZero (a b : Plain) : Except EvalError Value :=
  let signOf : Plain → Except EvalError Bool := fun
    | .int _ => .ok false
    | .float x => .ok (Binary.isNegative x)
    | .complex _ => .error (.notReal "complex")
  match a with
  | .int n =>
    if n = 0 then .ok (.float Binary.nan)
    else do
      let _ ← a.toFloat?
      let s ← signOf b
      return .float (Binary.infinity (decide (n < 0) != s))
  | .float x =>
    if x == 0 || x.isNaN then .ok (.float Binary.nan)
    else do
      let s ← signOf b
      return .float (Binary.infinity (Binary.isNegative x != s))
  | .complex z => if z.isZero then .ok (.float Binary.nan) else .error (.notReal "complex")

def divide (a b : Value) : Except EvalError Value :=
  numberOp .div (fun p q => do
    match ← quotient? p q with
    | some v => return v
    | Option.none => overZero p q) a b

/-- An operation on integers and reals with a whole quotient, where complex numbers have none. -/
def wholeOp (op : BinaryOp) (onInts : Int → Int → Except EvalError Value)
    (onFloats : Float → Float → Except EvalError Value) (a b : Value) : Except EvalError Value :=
  numberOp op (fun p q =>
    if p.isComplex || q.isComplex then .error (.operands op.sign a.kind b.kind)
    else plainOp onInts onFloats (fun _ _ => .error (.operands op.sign a.kind b.kind)) p q) a b

def floorDiv (a b : Value) : Except EvalError Value :=
  wholeOp .floorDiv
    (fun m n => if n = 0 then .error .divisionByZero else .ok (.int (m.fdiv n)))
    (fun x y =>
      if y == 0 then .error .floorDivisionByZero else .ok (.float (Division.divMod x y).1)) a b

/-- The remainder; a text is a template that is filled with the other value. -/
def mod (a b : Value) : Except EvalError Value :=
  match a with
  | .text s => (Template.fill s b).map .text
  | a =>
    wholeOp .mod
      (fun m n => if n = 0 then .error .moduloByZero else .ok (.int (m.fmod n)))
      (fun x y => if y == 0 then .error .realModuloByZero else .ok (.float (Division.divMod x y).2))
      a b

def maxPower : Nat := 4000000

/-- The magnitude of a number. That of a complex number may be out of range. -/
def magnitude : Value → Except EvalError Value
  | .int n => .ok (.int n.natAbs)
  | .bool b => .ok (.int (if b then 1 else 0))
  | .float x => .ok (.float x.abs)
  | .complex z =>
    let size := z.abs
    if Binary.isInfinite size && isFiniteReal z.re && isFiniteReal z.im then
      .error .magnitudeTooLarge
    else .ok (.float size)
  | .machine m => .ok (.machine m.abs)
  | v => .error (.noMagnitude v.kind)

def exceeds (bound : Nat) (v : Value) : Except EvalError Bool := do
  return (← compareWith .gt (← v.magnitude) (.int bound)).isTrue

def complexPower (z w : Complex) : Except EvalError Value :=
  match z.pow w with
  | .ok r => .ok (.complex r)
  | .error .zeroBase => .error .zeroToComplex
  | .error .overflow => .error .powerOutOfRange

/-- The power of reals. A negative base and a fraction give a complex number. -/
def realPower (x y : Float) : Except EvalError Value :=
  if x == 0 && y < 0 then .error .zeroToNegative
  else if x < 0 && (Binary.toInt? y).isNone && !y.isNaN then
    complexPower (Complex.ofFloat x) (Complex.ofFloat y)
  else
    let r := Float.pow x y
    if Binary.isInfinite r && !Binary.isInfinite x && !Binary.isInfinite y then
      .error .powerOutOfRange
    else .ok (.float r)

def plainPower (a b : Plain) : Except EvalError Value :=
  match a, b with
  | .int m, .int n =>
    if 0 ≤ n then .ok (.int (Int.pow m n.toNat)) else realPower (Binary.ofInt m) (Binary.ofInt n)
  | .complex z, q => do complexPower z (← q.toComplex?)
  | p, .complex w => do complexPower (← p.toComplex?) w
  | p, q => do realPower (← p.toFloat?) (← q.toFloat?)

def boundedPower (a b : Value) : Except EvalError Value := do
  let large ← if ← a.exceeds maxPower then pure true else b.exceeds maxPower
  if large then
    throw (.powerTooLarge (← a.plain.write) (← b.plain.write))
  numberOp .power plainPower a b

def isOdd (v : Value) : Except EvalError Bool :=
  let whole := fun (n : Option Int) => n.any fun n => n % 2 != 0
  match v with
  | .complex _ => .error (.noReal "complex")
  | .machine m => .ok (whole (m.toInt?.or (Binary.toInt? m.toFloat)))
  | .float x => .ok (whole (Binary.toInt? x))
  | v => .ok (whole v.index?)

/-- A power of numbers that are not too large. One that is out of range is an infinity, negative for an
odd power of a negative base. -/
def power (a b : Value) : Except EvalError Value :=
  match boundedPower a b with
  | .ok v => .ok v
  | .error e =>
    if e.family = .overflow then do
      let negative ← compareWith .lt a (.int 0)
      let odd ← if negative.isTrue then b.isOdd else pure false
      return .float (Binary.infinity odd)
    else .error e

def maxShift : Nat := 10000

/-- The largest magnitude of what is shifted: the largest double. -/
def maxShifted : Nat := (Nat.pow 2 53 - 1) * Nat.pow 2 971

def shift (op : BinaryOp) (a b : Value) : Except EvalError Value := do
  let large ← if ← b.exceeds maxShift then pure true else a.exceeds maxShifted
  if large then
    .error (.shiftTooLarge (← a.plain.write) op.sign (← b.plain.write))
  else
    numberOp op (fun p q =>
      match p, q with
      | .int m, .int n =>
        if n < 0 then .error .negativeShift
        else .ok (.int (if op = .shiftLeft then Bits.shiftLeft m n.toNat
          else Bits.shiftRight m n.toNat))
      | _, _ => .error (.operands op.sign a.kind b.kind)) a b

/-- A bitwise operation; two truth values give a truth value. -/
def bitwise (op : BinaryOp) (onInts : Int → Int → Int) (a b : Value) : Except EvalError Value :=
  match a, b with
  | .bool x, .bool y =>
    .ok (.bool (onInts (if x then 1 else 0) (if y then 1 else 0) != 0))
  | a, b =>
    numberOp op (fun p q =>
      match p, q with
      | .int m, .int n => .ok (.int (onInts m n))
      | _, _ => .error (.operands op.sign a.kind b.kind)) a b

def binary (source : String) (op : BinaryOp) (a b : Value) : Except EvalError Value :=
  match op with
  | .add => add a b
  | .sub => sub a b
  | .mul => mul a b
  | .div => divide a b
  | .floorDiv => floorDiv a b
  | .mod => mod a b
  | .power => power a b
  | .shiftLeft | .shiftRight => shift op a b
  | .bitAnd => bitwise op Bits.and a b
  | .bitOr => bitwise op Bits.or a b
  | .bitXor => bitwise op Bits.xor a b
  | .matMul => .error (.noOperator "@" source)

def unary (op : UnaryOp) (v : Value) : Except EvalError Value :=
  match op with
  | .not => .ok (.bool !v.isTrue)
  | .negate =>
    match v with
    | .machine m => m.neg.map .machine
    | v =>
      match v.plain? with
      | some (.int n) => .ok (.int (-n))
      | some (.float x) => .ok (.float (-x))
      | some (.complex z) => .ok (.complex z.neg)
      | Option.none => .error (.operand "-" v.kind)
  | .plus =>
    match v with
    | .machine m => m.plus.map .machine
    | v =>
      match v.plain? with
      | some (.int n) => .ok (.int n)
      | some (.float x) => .ok (.float x)
      | some (.complex z) => .ok (.complex z)
      | Option.none => .error (.operand "+" v.kind)
  | .invert =>
    match v with
    | .machine m => m.invert.map .machine
    | v =>
      match v.plain? with
      | some (.int n) => .ok (.int (Bits.complement n))
      | _ => .error (.operand "~" v.kind)

end Value

end Formulary
