import Formulary.Text.Blank
import Formulary.Text.Case
import Formulary.Value.Arithmetic

/-!
Calls of functions. All functions but `min` and `max` give machine numbers: those that round or take
magnitudes keep integers as integers of 64 bits, signed if they fit, and the others give reals.
Integers beyond 64 bits stay plain where a function can treat them so, and are refused elsewhere.
Arguments are matched with names before anything is computed.
-/

namespace Formulary

/-- What a function makes of its argument. -/
inductive Argument where
  | machine (m : Machine)
  /-- An integer beyond 64 bits. -/
  | large (n : Int)
  | text
  | other (v : Value)

def Value.toArgument : Value → Argument
  | .int n =>
    if Width.i64.holds n then .machine (.word .i64 n)
    else if Width.ull.holds n then .machine (.word .ull n)
    else .large n
  | .bool b => .machine (.flag b)
  | .float x => .machine (.real .double x)
  | .complex z => .machine (.complex .double z)
  | .machine m => .machine m
  | .text _ => .text
  | v => .other v

namespace Function

def loopName : Function → String
  | asin => "arcsin"
  | acos => "arccos"
  | atan => "arctan"
  | abs => "absolute"
  | f => f.name

def onReal : Function → Float → Float
  | sqrt, x => Float.sqrt x
  | cbrt, x => Float.cbrt x
  | sin, x => Float.sin x
  | cos, x => Float.cos x
  | tan, x => Float.tan x
  | asin, x => Float.asin x
  | acos, x => Float.acos x
  | atan, x => Float.atan x
  | sinh, x => Float.sinh x
  | cosh, x => Float.cosh x
  | tanh, x => Float.tanh x
  | exp, x => Float.exp x
  | log, x => Float.log x
  | log10, x => Float.log10 x
  | log2, x => Float.log2 x
  | abs, x => x.abs
  | floor, x => Binary.floor x
  | ceil, x => Binary.ceil x
  | round, x => Binary.roundEven x
  | min, x | max, x => x

def decimalLogFactor : Float := 0.4342944819032518

def binaryLogFactor : Float := 1.4426950408889634

def onComplex? : Function → Complex → Option Complex
  | sqrt, z => some z.sqrt
  | sin, z => some z.sin
  | cos, z => some z.cos
  | tan, z => some z.tan
  | asin, z => some z.asin
  | acos, z => some z.acos
  | atan, z => some z.atan
  | sinh, z => some z.sinh
  | cosh, z => some z.cosh
  | tanh, z => some z.tanh
  | exp, z => some z.exp
  | log, z => some z.log
  | log10, z => some (z.log.scale decimalLogFactor)
  | log2, z => some (z.log.scale binaryLogFactor)
  | _, _ => none

/-- The precision of the real that a function gives for an integer or truth value. -/
def precisionOf : Machine → Precision
  | .flag _ | .word .i8 _ => .half
  | .real p _ => p
  | _ => .double

/-- A function that gives reals. -/
def applyReal (f : Function) (m : Machine) : Except EvalError Machine :=
  match m with
  | .complex p z =>
    match f.onComplex? z with
    | some w => .ok (Machine.ofComplex p w)
    | none => .error (.unsupported f.loopName)
  | m =>
    let p := precisionOf m
    .ok (.real p (p.round (f.onReal (p.round m.toFloat))))

/-- `floor` and `ceil`, which leave integers alone. -/
def applyWhole (f : Function) (m : Machine) : Except EvalError Machine :=
  match m with
  | .real p x => .ok (.real p (f.onReal x))
  | .complex .. => .error (.unsupported f.loopName)
  | m => .ok m

/-- A function of one argument that is not `round`. -/
def apply (f : Function) (v : Value) : Except EvalError Value :=
  match v.toArgument with
  | .text =>
    match f with
    | abs => .error (.noLoop f.loopName textClassName)
    | f => .error (.unsupported f.loopName)
  | .machine m =>
    match f with
    | abs => .ok (.machine m.abs)
    | floor | ceil => (f.applyWhole m).map .machine
    | f => (f.applyReal m).map .machine
  | .large n =>
    match f with
    | abs => .ok (.int n.natAbs)
    | floor | ceil => .ok (.int n)
    | f => .error (.noMethod f.loopName "int")
  | .other v =>
    match f with
    | abs => .error (.noMagnitude v.kind)
    | floor | ceil => .error (.notReal v.kind)
    | f => .error (.noMethod f.loopName v.kind)

/-- Ten to a power, by repeated multiplication from `10^9` on. -/
def powerOfTen (n : Nat) : Float :=
  if n < 9 then Float.ofNat (Nat.pow 10 n)
  else
    let rec go : Nat → Float → Float
      | 0, x => x
      | k + 1, x => if Binary.isInfinite x then x else go k (x * 10)
    go (n - 9) 1e9

/-- A real rounded to a number of decimal places, half to even: scaled, rounded and scaled back, all in
its precision. -/
def roundReal (p : Precision) (x : Float) (places : Int) : Float :=
  if places = 0 then Binary.roundEven x
  else
    let k := p.round (powerOfTen places.natAbs)
    let fit := p.round
    if 0 < places then fit (Binary.roundEven (fit (x * k)) / k)
    else fit (Binary.roundEven (fit (x / k)) * k)

/-- A real cut down to an integer type; beyond the signed range it is the least integer there. -/
def toWord (w : Width) (x : Float) : Int :=
  let reach := if w.bits < 32 then Width.i32 else w
  match Binary.toInt? x with
  | some r => if reach.holds r then w.wrap r else w.wrap reach.low
  | none => w.low

/-- An integer rounded to a power of ten; positive places leave it alone. -/
def roundWord (w : Width) (n : Int) (places : Int) : Int :=
  if 0 ≤ places then n else toWord w (roundReal .double (Binary.ofInt n) places)

def scaling (places : Int) : BinaryOp × Float :=
  (if 0 < places then .mul else .div, powerOfTen places.natAbs)

/-- A value that is no machine number rounded to a number of places: scaled, it must know how to be
rounded, and none does. -/
def roundOther (v : Value) (places : Int) : Except EvalError Value := do
  if places = 0 then throw (.noMethod "rint" v.kind)
  let (op, k) := scaling places
  let scaled ← match op with
    | .div => v.divide (.float k)
    | _ => v.mul (.float k)
  throw (.noMethod "rint" scaled.kind)

def applyRound (v : Value) (places : Int) : Except EvalError Value :=
  let (op, k) := scaling places
  match v.toArgument with
  | .text =>
    if places = 0 then .error (.unsupported "rint")
    else .error (Value.textOperandError op v (.machine (.real .double k)))
  | .machine (.flag b) =>
    if places = 0 then .ok (.machine (.real .half (if b then 1 else 0)))
    else .error (.castResult (Machine.opName op) (MachineType.real .double).text
      MachineType.flag.text)
  | .machine (.word w n) => .ok (.machine (.word w (roundWord w n places)))
  | .machine (.real p x) => .ok (.machine (.real p (roundReal p x places)))
  | .machine (.complex p z) =>
    .ok (.machine (.complex p ⟨roundReal p z.re places, roundReal p z.im places⟩))
  | .large n => roundOther (.int n) places
  | .other v => roundOther v places

/-- An argument that says a number of places, of 32 bits. -/
def placesOf (v : Value) : Except EvalError Int :=
  match v.index? with
  | some n =>
    if !Width.i64.holds n then .error .intTooLargeForWord
    else if Width.i32.high < n then .error .placesTooLarge
    else if n < Width.i32.low then .error .placesTooSmall
    else .ok n
  | none => .error (.notAnInteger v.kind)

abbrev Named := List (String × Value)

def roundParameters : List String := ["a", "decimals", "out"]

def callRound (args : List Value) (named : Named) : Except EvalError Value := do
  for (name, _) in named do
    if !roundParameters.contains name then throw (.unexpectedKeyword "round" name)
    if (roundParameters.take args.length).contains name then
      throw (.repeatedArgument "round" name)
  if roundParameters.length < args.length then throw (.positionalCount "round" 1 3 args.length)
  let some v := args[0]?.or (named.lookup "a") | throw (.missingArgument "round" "a")
  let places ← match args[1]?.or (named.lookup "decimals") with
    | some p => placesOf p
    | none => pure 0
  match args[2]?.or (named.lookup "out") with
  | some .none | none => applyRound v places
  | some _ => throw .notAnArray

/-- The named arguments that the numeric functions know besides their operand. -/
def knownKeywords : List String := ["out", "where", "casting", "order", "dtype", "subok", "signature"]

/-- A numeric function called with one operand. A place for the result is refused unless it is none. -/
def callNumeric (f : Function) (args : List Value) (named : Named) : Except EvalError Value := do
  let v ← match args with
    | [v] | [v, _] => pure v
    | args => throw (.positionalCount f.loopName 1 2 args.length)
  for (name, _) in named do
    if !knownKeywords.contains name then throw (.unexpectedKeyword f.loopName name)
  let named? := named.lookup "out"
  if args.length = 2 && named?.isSome then throw .outputTwice
  match args[1]?.or named? with
  | some .none | none => f.apply v
  | some _ => throw .outputArray

/-- The values that a call of `min` or `max` chooses from: its arguments, or the members of a text or a
tuple that is the only one. -/
def choices (f : Function) (args : List Value) : Except EvalError (List Value) :=
  match args with
  | [] => .error (.atLeastOne f.name)
  | [.text s] => .ok (s.toList.map fun c => .text (String.singleton c))
  | [.tuple items] => .ok (items.map .int)
  | [v] => .error (.notIterable v.kind)
  | args => .ok args

/-- The least or greatest of the values by a key; of equal ones the first. -/
def choose (f : Function) (op : CompareOp) (key : Value → Except EvalError Value)
    (default? : Option Value) (args : List Value) : Except EvalError Value := do
  let rec go (best : Value × Value) : List Value → Except EvalError Value
    | [] => .ok best.1
    | v :: rest => do
      let k ← key v
      let better ← Value.compareWith op k best.2
      go (if better.isTrue then (v, k) else best) rest
  match ← f.choices args, default? with
  | v :: rest, _ => go (v, ← key v) rest
  | [], some d => return d
  | [], none => throw (.emptySequence f.name)

/-- How `min` and `max` compare. -/
def comparison : Function → CompareOp
  | min => .lt
  | _ => .gt

def callPlain (f : Function) (args : List Value) : Except EvalError Value :=
  match f with
  | round => callRound args []
  | min | max => f.choose f.comparison .ok none args
  | f => f.callNumeric args []

def keyOf (key : Option Value) (v : Value) : Except EvalError Value :=
  match key with
  | none | some .none => .ok v
  | some (.function f) => f.callPlain [v]
  | some (.method ..) => .error (.positionalCount "method" 0 0 1)
  | some k => .error (.notCallable k.kind)

def callExtreme (f : Function) (args : List Value) (named : Named) : Except EvalError Value := do
  if args.isEmpty then throw (.atLeastOne f.name)
  if 2 < named.length then throw (.keywordCount f.name 2 named.length)
  for (name, _) in named do
    if !(["key", "default"].contains name) then throw (.badKeyword f.name name)
  let default? := named.lookup "default"
  if 1 < args.length && default?.isSome then throw (.defaultBeside f.name)
  f.choose f.comparison (keyOf (named.lookup "key")) default? args

def call (f : Function) (args : List Value) (named : Named) : Except EvalError Value :=
  match f with
  | round => callRound args named
  | min | max => f.callExtreme args named
  | f => f.callNumeric args named

end Function

namespace Value

def numberAttribute? (v : Value) (name : String) : Option Value :=
  let machine := fun (m : Machine) => some (Value.machine m)
  match name, v with
  | "real", .int n | "numerator", .int n => some (.int n)
  | "real", .bool b | "numerator", .bool b => some (.int (if b then 1 else 0))
  | "imag", .int _ | "imag", .bool _ => some (.int 0)
  | "denominator", .int _ | "denominator", .bool _ => some (.int 1)
  | "real", .float x => some (.float x)
  | "imag", .float _ => some (.float 0)
  | "real", .complex z => some (.float z.re)
  | "imag", .complex z => some (.float z.im)
  | "real", .machine (.complex p z) => machine (.real p z.re)
  | "imag", .machine (.complex p z) => machine (.real p z.im)
  | "real", .machine m => machine m
  | "imag", .machine (.flag _) => machine (.flag false)
  | "imag", .machine (.word w _) => machine (.word w 0)
  | "imag", .machine (.real p _) => machine (.real p 0)
  | "numerator", .machine (.word w n) => machine (.word w n)
  | "denominator", .machine (.word w _) => machine (.word w 1)
  | _, _ => Option.none

def method? (v : Value) (name : String) : Option Method :=
  match name, v with
  | "upper", .text _ => some .upper
  | "lower", .text _ => some .lower
  | "strip", .text _ => some .strip
  | "is_integer", .float _ | "is_integer", .machine (.real ..) => some .isInteger
  | "bit_length", .int _ | "bit_length", .bool _ => some .bitLength
  | "as_integer_ratio", .int _ | "as_integer_ratio", .bool _ | "as_integer_ratio", .float _
  | "as_integer_ratio", .machine (.real ..) => some .asIntegerRatio
  | "conjugate", .int _ | "conjugate", .bool _ | "conjugate", .float _ | "conjugate", .complex _ =>
    some .conjugate
  | _, _ => Option.none

/-- What a value has under a name. -/
def attribute? (v : Value) (name : String) : Option Value :=
  match numberAttribute? v name with
  | some w => some w
  | Option.none => (method? v name).map (.method v)

/-- The ratio of integers that a real is, in lowest terms with a positive denominator. -/
def integerRatio (x : Float) : Except EvalError (Int × Nat) :=
  match Binary.decode x with
  | .nan => .error .ratioOfUndefined
  | .infinite _ => .error .ratioOfInfinity
  | .finite negative m q =>
    let (num, den) := Binary.ratio negative m q
    let g := Nat.gcd num.natAbs den
    .ok (num / g, den / g)

def callMethod (v : Value) (m : Method) : Except EvalError Value :=
  match m, v with
  | .upper, .text s => .ok (.text (Text.upper s))
  | .lower, .text s => .ok (.text (Text.lower s))
  | .strip, .text s => .ok (.text (Text.trim s))
  | .isInteger, .float x | .isInteger, .machine (.real _ x) =>
    .ok (.bool (Binary.toInt? x).isSome)
  | .bitLength, .int n => .ok (.int (if n = 0 then 0 else n.natAbs.log2 + 1))
  | .bitLength, .bool b => .ok (.int (if b then 1 else 0))
  | .asIntegerRatio, .int n => .ok (.tuple [n, 1])
  | .asIntegerRatio, .bool b => .ok (.tuple [if b then 1 else 0, 1])
  | .asIntegerRatio, .float x | .asIntegerRatio, .machine (.real _ x) =>
    (integerRatio x).map fun (num, den) => .tuple [num, den]
  | .conjugate, .complex z => .ok (.complex ⟨z.re, -z.im⟩)
  | .conjugate, .bool b => .ok (.int (if b then 1 else 0))
  | _, v => .ok v

/-- The member at a position; negative positions count from the end. -/
def memberAt? {α : Type} (members : List α) (i : Int) : Option α :=
  let j := if i < 0 then i + members.length else i
  if 0 ≤ j then members[j.toNat]? else Option.none

def positionOf (notAPosition : EvalError) (v : Value) : Except EvalError Int :=
  match v.index? with
  | some n => if Width.i64.holds n then .ok n else .error (.indexTooLarge v.kind)
  | Option.none => .error notAPosition

def itemAt (v index : Value) : Except EvalError Value :=
  match v with
  | .text s => do
    match memberAt? s.toList (← positionOf (.textIndex index.kind) index) with
    | some c => return .text (String.singleton c)
    | Option.none => throw .textIndexRange
  | .tuple items => do
    match memberAt? items (← positionOf (.tupleIndex index.kind) index) with
    | some n => return .int n
    | Option.none => throw .tupleIndexRange
  | .machine _ => .error .scalarIndex
  | v => .error (.notSubscriptable v.kind)

/-- The positions of a slice: from the first on in steps, while before the end. -/
def slicePositions (start stop step : Int) : Nat → List Int
  | 0 => []
  | fuel + 1 =>
    if (0 < step ∧ start < stop) ∨ (step < 0 ∧ stop < start) then
      start :: slicePositions (start + step) stop step fuel
    else []

def sliceBound (n : Int) (low high : Int) (i : Int) : Int :=
  let j := if i < 0 then i + n else i
  if j < low then low else if high < j then high else j

def slice {α : Type} (members : List α) (low high : Option Int) (step : Int) :
    Except EvalError (List α) :=
  if step = 0 then .error .zeroStep
  else
    let n : Int := members.length
    let (first, last) := if 0 < step then ((0 : Int), n) else (-1, n - 1)
    let start := (low.map (sliceBound n first last)).getD (if 0 < step then 0 else n - 1)
    let stop := (high.map (sliceBound n first last)).getD (if 0 < step then n else -1)
    let positions := slicePositions start stop step (members.length + 1)
    .ok (positions.filterMap fun i => members[i.toNat]?)

def boundOf (v : Value) : Except EvalError (Option Int) :=
  match v, v.index? with
  | .none, _ => .ok Option.none
  | _, some n => .ok (some n)
  | _, Option.none => .error .sliceBounds

def sliced {α : Type} (members : List α) (low high step : Value) : Except EvalError (List α) := do
  let k ← boundOf step
  slice members (← boundOf low) (← boundOf high) (k.getD 1)

def sliceOf (v low high step : Value) : Except EvalError Value :=
  match v with
  | .text s => (sliced s.toList low high step).map fun cs => .text (String.ofList cs)
  | .tuple items => (sliced items low high step).map .tuple
  | .machine _ => .error .scalarIndex
  | v => .error (.notSubscriptable v.kind)

end Value

end Formulary
