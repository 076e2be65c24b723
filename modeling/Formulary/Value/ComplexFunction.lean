import Formulary.Value.Complex

/-!
Functions of complex numbers. Large real parts are taken off an exponential in steps, so that a
product with it leaves the range only if the result does. Logarithms of numbers near the unit circle
start from the exact distance to it, and the inverse functions are taken in the quarter of the plane
where nothing cancels. Undefined and infinite parts follow the limits of the functions.
-/

namespace Formulary

def leastNormal : Float := 2.2250738585072014e-308

def greatestDouble : Float := 1.7976931348623157e308

/-- The distance from one to the next double. -/
def doubleEpsilon : Float := 2.220446049250313e-16

def logOfTwo : Float := 0.6931471805599453

def isFiniteReal (x : Float) : Bool := !x.isNaN && !Binary.isInfinite x

/-- The logarithm of a number raised by one. -/
def logOnePlus (x : Float) : Float :=
  let u := 1 + x
  if u == 1 then x
  else if Binary.isInfinite u || u == 0 then Float.log u
  else Float.log u * (x / (u - 1))

namespace Complex

/-- The sum of two squares less one, rounded once. -/
def squaresLessOne (x y : Float) : Float :=
  match Binary.decode x, Binary.decode y with
  | .finite _ m q, .finite _ m' q' =>
    let unit := min (min q q') 0
    let a := m * Nat.pow 2 (q - unit).toNat
    let b := m' * Nat.pow 2 (q' - unit).toNat
    let one := Nat.pow 4 (-unit).toNat
    let n : Int := (a * a + b * b : Nat) - (one : Nat)
    Binary.nearest Binary.binary64 (n < 0) n.natAbs one
  | _, _ => Binary.nan

/-- Sine and cosine of an angle. -/
def sineCosine (angle : Float) : Float × Float :=
  if angle.abs > leastNormal then (Float.sin angle, Float.cos angle) else (angle, 1)

def expTimes (x a b : Float) : Complex :=
  let limit : Float := 709
  let unit := Float.exp limit
  let step := fun (v : Float × Complex) =>
    if v.1 > limit then (v.1 - limit, (⟨v.2.re * unit, v.2.im * unit⟩ : Complex)) else v
  let (x, z) := step (step (x, ⟨a, b⟩))
  let factor := if x > limit then greatestDouble else Float.exp x
  ⟨factor * z.re, factor * z.im⟩

def exp (z : Complex) : Complex :=
  if z.re.isNaN then ⟨Binary.nan, if z.im == 0 then z.im else Binary.nan⟩
  else if Binary.isInfinite z.re then
    let negative := Binary.isNegative z.re
    let size := if negative then 0 else Binary.infinity false
    if isFiniteReal z.im then
      if z.im == 0 then ⟨size, z.im⟩
      else
        let (s, c) := sineCosine z.im
        ⟨Binary.withSign size c, Binary.withSign size s⟩
    else if negative then ⟨0, Binary.withSign 0 z.im⟩
    else ⟨size, Binary.nan⟩
  else if isFiniteReal z.im then
    let (s, c) := sineCosine z.im
    expTimes z.re c s
  else ⟨Binary.nan, Binary.nan⟩

def logAbs (z : Complex) : Float :=
  let a := z.re.abs
  let b := z.im.abs
  let (x, y) := if a < b then (b, a) else (a, b)
  if Binary.isInfinite x || Binary.isInfinite y then Binary.infinity false
  else if x.isNaN || y.isNaN then Binary.nan
  else if x == 1 then logOnePlus (y * y) / 2
  else if x > 1 && x < 2 && y < 1 then
    let d := (x - 1) * (x + 1)
    logOnePlus (if y ≥ doubleEpsilon then d + y * y else d) / 2
  else if x < 1 && x ≥ 0.5 && y < doubleEpsilon / 2 then
    logOnePlus ((x - 1) * (x + 1)) / 2
  else if x < 1 && x ≥ 0.5 && x * x + y * y ≥ 0.5 then
    logOnePlus (squaresLessOne x y) / 2
  else if x > greatestDouble / 2 then Float.log (hypot (x / 2) (y / 2)) + logOfTwo
  else if x < leastNormal then
    let unit : Float := 9007199254740992
    Float.log (hypot (x * unit) (y * unit)) - 53 * logOfTwo
  else Float.log (hypot x y)

def log (z : Complex) : Complex :=
  if z.re.isNaN || z.im.isNaN then ⟨logAbs z, Binary.nan⟩
  else ⟨logAbs z, Float.atan2 z.im z.re⟩

/-- The square root with a real part not below zero. -/
def sqrt (z : Complex) : Complex :=
  if Binary.isInfinite z.im then ⟨Binary.infinity false, z.im⟩
  else if Binary.isInfinite z.re then
    if z.re < 0 then
      ⟨if z.im.isNaN then Binary.nan else 0, Binary.withSign (Binary.infinity false) z.im⟩
    else ⟨z.re, if z.im.isNaN then Binary.nan else Binary.withSign 0 z.im⟩
  else if z.re.isNaN || z.im.isNaN then ⟨Binary.nan, Binary.nan⟩
  else if z.im == 0 then
    if z.re < 0 then ⟨0, Binary.withSign (Float.sqrt z.re.abs) z.im⟩
    else ⟨(Float.sqrt z.re).abs, Binary.withSign 0 z.im⟩
  else if z.re == 0 then
    let r := if z.im.abs ≥ 2 * leastNormal then Float.sqrt (0.5 * z.im.abs)
      else 0.5 * Float.sqrt (2 * z.im.abs)
    ⟨r, Binary.withSign r z.im⟩
  else
    let root := fun (z : Complex) =>
      let d := hypot z.re z.im
      if z.re > 0 then
        let r := Float.sqrt (0.5 * (d + z.re))
        (⟨r, (0.5 * (z.im / r)).abs⟩ : Complex)
      else
        let s := Float.sqrt (0.5 * (d - z.re))
        ⟨(0.5 * (z.im / s)).abs, s⟩
    let resized := fun (k back : Float) =>
      let r := root ⟨z.re * k, z.im * k⟩
      (⟨r.re * back, Binary.withSign (r.im * back) z.im⟩ : Complex)
    if z.re.abs > greatestDouble / 4 || z.im.abs > greatestDouble / 4 then resized 0.25 2
    else if z.re.abs < 2 * leastNormal && z.im.abs < 2 * leastNormal then
      resized 18014398509481984 (1 / 134217728)
    else resized 1 1

def scale (k : Float) (z : Complex) : Complex := ⟨z.re * k, z.im * k⟩

/-- From here on a hyperbolic sine is half an exponential. -/
def hyperbolicLimit : Float := 709

def sinh (z : Complex) : Complex :=
  let negative := Binary.isNegative z.re
  let turnedIf := fun (x : Float) => if negative then -x else x
  if z.re.isNaN then ⟨Binary.nan, if z.im == 0 then z.im else Binary.nan⟩
  else if Binary.isInfinite z.re then
    let size := Binary.infinity false
    if !isFiniteReal z.im then ⟨size, Binary.nan⟩
    else if z.im == 0 then ⟨turnedIf size, z.im⟩
    else
      let (s, c) := sineCosine z.im
      ⟨turnedIf (Binary.withSign size c), Binary.withSign size s⟩
  else if !isFiniteReal z.im then
    if z.re == 0 then ⟨z.re, Binary.nan⟩ else ⟨Binary.nan, Binary.nan⟩
  else
    let (s, c) := sineCosine z.im
    let x := z.re.abs
    if x > hyperbolicLimit then expTimes x (turnedIf c * 0.5) (s * 0.5)
    else ⟨Float.sinh x * turnedIf c, Float.cosh x * s⟩

def cosh (z : Complex) : Complex :=
  let sign := Binary.withSign 1 z.re
  if z.re.isNaN then ⟨Binary.nan, if z.im == 0 then z.im else Binary.nan⟩
  else if Binary.isInfinite z.re then
    let size := Binary.infinity false
    if !isFiniteReal z.im then ⟨size, Binary.nan⟩
    else if z.im == 0 then ⟨size, z.im * sign⟩
    else
      let (s, c) := sineCosine z.im
      ⟨Binary.withSign size c, Binary.withSign size s * sign⟩
  else if !isFiniteReal z.im then ⟨Binary.nan, if z.re == 0 then 0 else Binary.nan⟩
  else
    let (s, c) := sineCosine z.im
    if z.re.abs > hyperbolicLimit then expTimes z.re.abs (c * 0.5) (s * sign * 0.5)
    else ⟨Float.cosh z.re * c, Float.sinh z.re * s⟩

def tanh (z : Complex) : Complex :=
  if Binary.isInfinite z.re then
    let turn := if isFiniteReal z.im && z.im.abs > 1 then
        Float.sin z.im * Float.cos z.im
      else z.im
    ⟨Binary.withSign 1 z.re, Binary.withSign 0 turn⟩
  else if z.re.isNaN || !isFiniteReal z.im then
    if z.im == 0 then z else ⟨if z.re == 0 then z.re else Binary.nan, Binary.nan⟩
  else
    let (s, c) := sineCosine z.im
    let limit : Float := 354
    if z.re.abs > limit then
      let unit := Float.exp (2 * limit)
      let rest := z.re.abs - limit
      let small := 4 * s * c / unit
      ⟨Binary.withSign 1 z.re,
        if rest > limit then small / unit else small / Float.exp (2 * rest)⟩
    else
      let (sh, ch) := if z.re.abs > leastNormal then (Float.sinh z.re, Float.cosh z.re)
        else (z.re, 1)
      let den := if sh.abs > c.abs * doubleEpsilon then sh * sh + c * c else c * c
      ⟨sh * ch / den, s * c / den⟩

/-- Multiplication by the imaginary unit. -/
def turn (z : Complex) : Complex := ⟨-z.im, z.re⟩

/-- Division by the imaginary unit. -/
def unturn (z : Complex) : Complex := ⟨z.im, -z.re⟩

def sin (z : Complex) : Complex := unturn (sinh (turn z))

def cos (z : Complex) : Complex := cosh (turn z)

def tan (z : Complex) : Complex := unturn (tanh (turn z))

/-- The inverse hyperbolic sine of a number that is finite and not zero; the imaginary part is taken
from a quarter turn if `adjoint` says so. -/
def arcSinh (adjoint : Bool) (z : Complex) : Complex :=
  let x := z.re.abs
  let y := z.im.abs
  let angle := fun (sine cosine : Float) =>
    if adjoint then Float.atan2 cosine (Binary.withSign sine z.im) else Float.atan2 sine cosine
  let swapped := fun (w : Complex) =>
    if adjoint then (⟨Binary.withSign w.im z.im, w.re⟩ : Complex) else w
  let tiny := doubleEpsilon * doubleEpsilon
  let w : Complex :=
    if x ≥ 1 / doubleEpsilon || y ≥ 1 / doubleEpsilon then
      let w := log (swapped ⟨x, y⟩)
      ⟨w.re + logOfTwo, w.im⟩
    else if x ≥ 0.5 && y < doubleEpsilon / 8 then
      let s := hypot 1 x
      ⟨Float.log (x + s), angle y s⟩
    else if x < doubleEpsilon / 8 && y ≥ 1.5 then
      let s := Float.sqrt ((y + 1) * (y - 1))
      ⟨Float.log (y + s), angle s x⟩
    else if y > 1 && y < 1.5 && x < 0.5 then
      let e := (y + 1) * (y - 1)
      if x < tiny then
        let s := Float.sqrt e
        ⟨logOnePlus (2 * (e + y * s)) / 2, angle s x⟩
      else
        let f := x * x * (2 + x * x + 2 * y * y)
        let dp := Float.sqrt (e * e + f) + e
        let r := Float.sqrt ((f / dp + x * x) / 2)
        let r' := x * y / r
        ⟨logOnePlus (x * x + dp + 2 * (x * r + y * r')) / 2, angle (y + r') (x + r)⟩
    else if y == 1 && x < 0.5 then
      if x < doubleEpsilon / 8 then
        ⟨logOnePlus (2 * (x + Float.sqrt x)) / 2, angle 1 (Float.sqrt x)⟩
      else
        let d := x * Float.sqrt (4 + x * x)
        let s := Float.sqrt ((d + x * x) / 2)
        let s' := Float.sqrt ((d - x * x) / 2)
        ⟨logOnePlus (x * x + d + 2 * (x * s + s')) / 2, angle (1 + s') (x + s)⟩
    else if y < 1 && x < 0.5 then
      if y > doubleEpsilon then
        let e := (1 + y) * (1 - y)
        if x < tiny then
          let s := Float.sqrt e
          ⟨logOnePlus (2 * x / s) / 2, angle y s⟩
        else
          let f := x * x * (2 + x * x + 2 * y * y)
          let dp := Float.sqrt (e * e + f) + e
          let r := Float.sqrt ((dp + x * x) / 2)
          let r' := x * y / r
          ⟨logOnePlus (x * x + f / dp + 2 * (x * r + y * r')) / 2, angle (y + r') (x + r)⟩
      else
        let s := hypot 1 x
        ⟨logOnePlus (2 * x * (x + s)) / 2, angle y s⟩
    else
      let r := sqrt ⟨(x - y) * (x + y) + 1, 2 * x * y⟩
      log (swapped ⟨r.re + x, r.im + y⟩)
  ⟨Binary.withSign w.re.abs z.re,
    Binary.withSign w.im.abs (if adjoint then 1 else z.im)⟩

def asinh (z : Complex) : Complex :=
  let quarter := Constant.pi.value / 2
  if Binary.isInfinite z.im then
    ⟨Binary.withSign (Binary.infinity false) z.re,
      if z.re.isNaN then Binary.nan
      else Binary.withSign (if Binary.isInfinite z.re then quarter / 2 else quarter) z.im⟩
  else if Binary.isInfinite z.re then
    ⟨z.re, if z.im.isNaN then Binary.nan else Binary.withSign 0 z.im⟩
  else if z.re.isNaN then ⟨z.re, if z.im == 0 then z.im else Binary.nan⟩
  else if z.im.isNaN then ⟨Binary.nan, Binary.nan⟩
  else if isZero z then z
  else arcSinh false z

def asin (z : Complex) : Complex :=
  if z.re.isNaN || z.im.isNaN then
    if z.re == 0 then z
    else if Binary.isInfinite z.re || Binary.isInfinite z.im then
      ⟨Binary.nan, Binary.withSign (Binary.infinity false) z.im⟩
    else ⟨Binary.nan, Binary.nan⟩
  else unturn (asinh (turn z))

def acos (z : Complex) : Complex :=
  if !isFiniteReal z.re || !isFiniteReal z.im || isZero z then
    let w := asin z
    let r := Constant.pi.value / 2 - w.re
    ⟨if r == 0 then 0 else r, -w.im⟩
  else
    let w := arcSinh true (turn z)
    ⟨w.im, w.re⟩

def atan (z : Complex) : Complex :=
  let quarter := Binary.withSign (Constant.pi.value / 2) z.re
  if Binary.isInfinite z.re then ⟨quarter, Binary.withSign 0 z.im⟩
  else if Binary.isInfinite z.im then
    ⟨if z.re.isNaN then Binary.nan else quarter, Binary.withSign 0 z.im⟩
  else if z.re.isNaN then
    ⟨Binary.nan, if z.im == 0 then Binary.withSign 0 z.im else Binary.nan⟩
  else if z.im.isNaN then ⟨if z.re == 0 then z.re else Binary.nan, Binary.nan⟩
  else if isZero z then z
  else
    let a := z.re.abs
    let b := z.im.abs
    if a ≥ 16 / doubleEpsilon || b ≥ 16 / doubleEpsilon then
      let rest :=
        if a ≤ 1 then 1 / z.im
        else if b ≤ 1 then z.im / z.re / z.re
        else
          let h := hypot (z.re / 2) (z.im / 2)
          z.im / h / h / 4
      ⟨quarter, rest⟩
    else
      let (x, y) := if a < b then (b, a) else (a, b)
      let plainGap := (1 - x) * (1 + x)
      let gap :=
        if y < doubleEpsilon / 2 then plainGap + 0
        else if x ≥ 1 then plainGap - y * y
        else if x ≥ 0.75 || y ≥ 0.5 then -(squaresLessOne x y)
        else plainGap - y * y
      let angle := 0.5 * Float.atan2 (2 * z.re) gap
      let tiny := doubleEpsilon * doubleEpsilon
      if b == 1 && a < tiny then
        ⟨angle, Binary.withSign 0.5 z.im * (logOfTwo - Float.log a)⟩
      else
        let r := if a ≥ tiny then z.re * z.re else 0
        let num := r + (z.im + 1) * (z.im + 1)
        let den := r + (z.im - 1) * (z.im - 1)
        let f := num / den
        ⟨angle, if f < 0.5 then 0.25 * Float.log f
          else 0.25 * logOnePlus (4 * z.im / den)⟩

/-- The power of machine numbers by the logarithm of the base. -/
def logPow (a b : Complex) : Complex := exp (mul b (log a))

def machinePow (fit : Float → Float) (a b : Complex) : Complex :=
  let times := mulBy fit
  if isZero b then one
  else if isZero a then
    if b.re > 0 then zero else ⟨Binary.nan, Binary.nan⟩
  else
    match smallExponent? 99 b with
    | some 1 => a
    | some 2 => times a a
    | some 3 => times a (times a a)
    | some n =>
      if 0 < n then powNat times a n.toNat else machineDiv fit one (powNat times a n.natAbs)
    | none => logPow a b

end Complex

end Formulary
