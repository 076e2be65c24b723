import Formulary.Binary.Format

/-!
Floating-point numbers read from and written to their bits, and the operations on them that are
exact or exactly rounded: whole parts, remainders, comparison with integers, narrowing.
-/

namespace Formulary.Binary

/-- What the bits of a floating-point number say. -/
inductive Decoded where
  | nan
  | infinite (negative : Bool)
  | finite (negative : Bool) (mantissa : Nat) (exponent : Int)
deriving DecidableEq, Repr

/-- Splits a number into sign, significand and exponent. -/
def decode (x : Float) : Decoded :=
  let bits := x.toBits.toNat
  let negative := decide (Nat.pow 2 63 ≤ bits)
  let field : Nat := bits / Nat.pow 2 52 % Nat.pow 2 11
  let fraction : Nat := bits % Nat.pow 2 52
  if field = 2047 then (if fraction = 0 then .infinite negative else .nan)
  else if field = 0 then .finite negative fraction (-1074)
  else .finite negative (Nat.pow 2 52 + fraction) ((field : Int) - 1075)

def signBits (negative : Bool) : Nat := if negative then Nat.pow 2 63 else 0

def infinity (negative : Bool) : Float := Float.ofBits (.ofNat (signBits negative + 2047 * Nat.pow 2 52))

def nan : Float := Float.ofBits (.ofNat (2047 * Nat.pow 2 52 + Nat.pow 2 51))

/-- Writes `± m · 2^q`, for an `m` of at most 53 digits in the smallest possible unit. -/
def encode (negative : Bool) (m : Nat) (q : Int) : Float :=
  let magnitude :=
    if m < Nat.pow 2 52 then m
    else if m = Nat.pow 2 53 then (q + 1076).toNat * Nat.pow 2 52
    else (q + 1075).toNat * Nat.pow 2 52 + (m - Nat.pow 2 52)
  Float.ofBits (.ofNat (signBits negative + magnitude))

/-- The nearest double to a ratio; an infinity when the ratio is out of range of the format. -/
def nearest (f : Format) (negative : Bool) (num den : Nat) : Float :=
  match f.round? num den with
  | none => infinity negative
  | some (m, q) =>
    let (up, down) := twoPower q
    match binary64.round? (m * up) down with
    | none => infinity negative
    | some (m, q) => encode negative m q

def narrow (f : Format) (x : Float) : Float :=
  match decode x with
  | .finite negative m q => let (up, down) := twoPower q; nearest f negative (m * up) down
  | _ => x

/-- The double nearest to an integer, if one is in range. -/
def ofInt? (n : Int) : Option Float :=
  match binary64.round? n.natAbs 1 with
  | none => none
  | some (m, q) => some (encode (n < 0) m q)

/-- The double nearest to an integer; beyond the range, an infinity. -/
def ofInt (n : Int) : Float := (ofInt? n).getD (infinity (n < 0))

/-- A finite number as a signed ratio. -/
def ratio (negative : Bool) (m : Nat) (q : Int) : Int × Nat :=
  let (up, down) := twoPower q
  (if negative then -(m * up : Nat) else (m * up : Nat), down)

def toInt? (x : Float) : Option Int :=
  match decode x with
  | .finite negative m q =>
    let (num, den) := ratio negative m q
    if num % den = 0 then some (num / den) else none
  | _ => none

def compareInt (negative : Bool) (m : Nat) (q : Int) (n : Int) : Ordering :=
  let (num, den) := ratio negative m q
  compare num (n * den)

/-- The sign bit is set. -/
def isNegative (x : Float) : Bool :=
  match decode x with
  | .nan => decide (Nat.pow 2 63 ≤ x.toBits.toNat)
  | .infinite negative => negative
  | .finite negative _ _ => negative

/-- Replaces a finite number by a whole number near it, chosen from the whole part of the magnitude
and whether anything is cut off; zeros keep the sign of the number. -/
def mapWhole (choose : (negative : Bool) → (num den : Nat) → Nat) (x : Float) : Float :=
  match decode x with
  | .finite negative m q =>
    if 0 ≤ q then x
    else
      let (up, down) := twoPower q
      nearest binary64 negative (choose negative (m * up) down) 1
  | _ => x

def floor : Float → Float :=
  mapWhole fun negative num den => if negative then (num + den - 1) / den else num / den

def ceil : Float → Float :=
  mapWhole fun negative num den => if negative then num / den else (num + den - 1) / den

def roundEven : Float → Float := mapWhole fun _ => divNearest

/-- The remainder of a division whose quotient is cut off toward zero, with the sign of the
dividend. -/
def remainder (x y : Float) : Float :=
  match decode x, decode y with
  | .finite negative m q, .finite _ m' q' =>
    if m' = 0 then nan
    else
      let unit := min q q'
      let a := m * Nat.pow 2 (q - unit).toNat
      let b := m' * Nat.pow 2 (q' - unit).toNat
      let (up, down) := twoPower unit
      nearest binary64 negative (a % b * up) down
  | .finite .., .infinite _ => x
  | _, _ => nan

def withSign (x y : Float) : Float := if isNegative x == isNegative y then x else -x

def isInfinite (x : Float) : Bool :=
  match decode x with
  | .infinite _ => true
  | _ => false

end Formulary.Binary
