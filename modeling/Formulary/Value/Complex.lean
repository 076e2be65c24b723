import Formulary.Value.Basic

/-!
Complex numbers by their real and imaginary parts. Division scales by the larger part of the
divisor; powers with small whole exponents multiply, and others go through magnitude and angle.
-/

namespace Formulary.Complex

def zero : Complex := ⟨0, 0⟩
def one : Complex := ⟨1, 0⟩

def ofFloat (x : Float) : Complex := ⟨x, 0⟩

def add (a b : Complex) : Complex := ⟨a.re + b.re, a.im + b.im⟩
def sub (a b : Complex) : Complex := ⟨a.re - b.re, a.im - b.im⟩

/-- The product, every step being rounded by a function. -/
def mulBy (fit : Float → Float) (a b : Complex) : Complex :=
  ⟨fit (fit (a.re * b.re) - fit (a.im * b.im)), fit (fit (a.re * b.im) + fit (a.im * b.re))⟩

def mul (a b : Complex) : Complex := mulBy id a b

def neg (a : Complex) : Complex := ⟨-a.re, -a.im⟩
def beq (a b : Complex) : Bool := a.re == b.re && a.im == b.im
def isZero (a : Complex) : Bool := a.re == 0 && a.im == 0

def div? (a b : Complex) : Option Complex :=
  if b.im.abs ≤ b.re.abs then
    if b.re.abs == 0 then none
    else
      let ratio := b.im / b.re
      let denom := b.re + b.im * ratio
      some ⟨(a.re + a.im * ratio) / denom, (a.im - a.re * ratio) / denom⟩
  else if b.re.abs ≤ b.im.abs then
    let ratio := b.re / b.im
    let denom := b.re * ratio + b.im
    some ⟨(a.re * ratio + a.im) / denom, (a.im * ratio - a.re) / denom⟩
  else some ⟨Binary.nan, Binary.nan⟩

/-- The quotient of machine numbers, every step being rounded by a function; a zero divisor divides
each part by zero. -/
def machineDiv (fit : Float → Float) (a b : Complex) : Complex :=
  if b.im.abs ≤ b.re.abs then
    if b.re.abs == 0 && b.im.abs == 0 then ⟨a.re / b.re.abs, a.im / b.re.abs⟩
    else
      let ratio := fit (b.im / b.re)
      let scale := fit (1.0 / fit (b.re + fit (b.im * ratio)))
      ⟨fit (fit (a.re + fit (a.im * ratio)) * scale), fit (fit (a.im - fit (a.re * ratio)) * scale)⟩
  else
    let ratio := fit (b.re / b.im)
    let scale := fit (1.0 / fit (b.im + fit (b.re * ratio)))
    ⟨fit (fit (fit (a.re * ratio) + a.im) * scale), fit (fit (fit (a.im * ratio) - a.re) * scale)⟩

/-- The whole square root, by Newton's method from above; `fuel` bounds the number of steps. -/
def wholeRoot : Nat → Nat → Nat → Nat
  | 0, _, x => x
  | fuel + 1, n, x =>
    let y := (x + n / x) / 2
    if y < x then wholeRoot fuel n y else x

/-- The length of the hypotenuse, rounded once. -/
def hypot (x y : Float) : Float :=
  match Binary.decode x, Binary.decode y with
  | .infinite _, _ | _, .infinite _ => Binary.infinity false
  | .nan, _ | _, .nan => Binary.nan
  | .finite _ m q, .finite _ m' q' =>
    let unit := min q q'
    let a := m * Nat.pow 2 (q - unit).toNat
    let b := m' * Nat.pow 2 (q' - unit).toNat
    let n := a * a + b * b
    if n = 0 then 0
    else
      -- sixty-four digits more than asked for, and one to tell whether anything is cut off
      let scaled := n * Nat.pow 4 64
      let r := wholeRoot 5000 scaled (Nat.pow 2 (scaled.log2 / 2 + 1))
      let twice := 2 * r + (if r * r = scaled then 0 else 1)
      let (up, down) := Binary.twoPower (unit - 65)
      Binary.nearest Binary.binary64 false (twice * up) down

def abs (a : Complex) : Float := hypot a.re a.im

/-- Repeated multiplication along the binary digits of an exponent. -/
def powNat (times : Complex → Complex → Complex) (base : Complex) (n : Nat) : Complex :=
  let rec go : Nat → Nat → Complex → Complex → Complex
    | 0, _, _, r => r
    | fuel + 1, n, p, r =>
      if n = 0 then r else go fuel (n / 2) (times p p) (if n % 2 = 1 then times r p else r)
  go 64 n base one

/-- A power by magnitude and angle, for a base that is not zero. -/
def polarPow (a b : Complex) : Complex :=
  let size := hypot a.re a.im
  let angle := Float.atan2 a.im a.re
  let len := Float.pow size b.re
  let phase := angle * b.re
  let (len, phase) :=
    if b.im == 0 then (len, phase)
    else (len / Float.exp (angle * b.im), phase + b.im * Float.log size)
  ⟨len * Float.cos phase, len * Float.sin phase⟩

/-- Why a power has no value. -/
inductive PowerError where
  /-- A zero to a negative or complex power. -/
  | zeroBase
  /-- The result is out of range. -/
  | overflow
deriving DecidableEq, Repr

def smallExponent? (bound : Nat) (b : Complex) : Option Int :=
  if b.im == 0 then
    match Binary.toInt? b.re with
    | some n => if n.natAbs ≤ bound then some n else none
    | none => none
  else none

def pow (a b : Complex) : Except PowerError Complex :=
  let value : Except PowerError Complex :=
    match smallExponent? 100 b with
    | some n =>
      if 0 < n then .ok (powNat mul a n.toNat)
      else
        match div? one (powNat mul a n.natAbs) with
        | some z => .ok z
        | none => .error .zeroBase
    | none =>
      if isZero b then .ok one
      else if isZero a then
        if b.im != 0 || b.re < 0 then .error .zeroBase else .ok zero
      else .ok (polarPow a b)
  match value with
  | .ok z => if Binary.isInfinite z.re || Binary.isInfinite z.im then .error .overflow else .ok z
  | .error e => .error e

end Formulary.Complex
