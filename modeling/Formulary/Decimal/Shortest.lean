import Formulary.Binary.Format

/-!
The shortest decimal that reads back. The reals that round to a number `m · 2^q` form an interval
around it, closed when `m` is even. Of the decimals in that interval those with the fewest digits
are taken, and of those the nearest to the number.
-/

namespace Formulary.Decimal

open Formulary.Binary (Format)

/-- How many decimal digits a number has; zero has one. -/
def digitCount (n : Nat) : Nat := (Nat.toDigits 10 n).length

/-- A decimal `0.d₁d₂… · 10^point`, written by its digits as one number. -/
structure Digits where
  coefficient : Nat
  point : Int
deriving DecidableEq, Repr

def stripZeros : Nat → Nat → Nat
  | 0, n => n
  | fuel + 1, n => if n % 10 = 0 ∧ n ≠ 0 then stripZeros fuel (n / 10) else n

/-- The position of the decimal point: `10^(point-1) ≤ m · 2^q < 10^point`. -/
def pointOf (m : Nat) (q : Int) : Int :=
  if 0 ≤ q then digitCount (m * Nat.pow 2 q.toNat) else digitCount (m * Nat.pow 5 (-q).toNat) + q

/-- The interval of the reals that round to a number: the number and the ends, in units of
`2^(q-2)`, and whether the ends belong to it. -/
structure Neighbourhood where
  low : Nat
  mid : Nat
  high : Nat
  closed : Bool

/-- The interval of `m · 2^q`: half a unit to each side, and a quarter below a power of two. -/
def neighbourhood (f : Format) (m : Nat) (q : Int) : Neighbourhood :=
  { low := 4 * m - (if m = Nat.pow 2 (f.precision - 1) ∧ f.minExponent < q then 1 else 2)
    mid := 4 * m
    high := 4 * m + 2
    closed := m % 2 = 0 }

/-- The point of the grid `10^t` that is in the interval and nearest to the number, if there is
one; `num / den` turns units of the interval into steps of the grid. -/
def Neighbourhood.gridPoint? (h : Neighbourhood) (num den : Nat) : Option Nat :=
  let c := h.mid * num / den
  let inside := fun (x : Nat) =>
    let (l, y, u) := (h.low * num, x * den, h.high * num)
    if h.closed then l ≤ y ∧ y ≤ u else l < y ∧ y < u
  if inside c ∧ inside (c + 1) then
    let twice := 2 * (h.mid * num)
    let middle := (2 * c + 1) * den
    some (if twice < middle then c else if middle < twice then c + 1 else c + c % 2)
  else if inside c then some c
  else if inside (c + 1) then some (c + 1)
  else none

def tenPower (t : Int) : Nat × Nat := (Nat.pow 10 t.toNat, Nat.pow 10 (-t).toNat)

/-- Tries grids of more and more digits, at most `fuel` of them beyond the first. -/
def searchGrid (h : Neighbourhood) (q point : Int) : Nat → Nat → Nat × Int
  | 0, digits =>
    let t := point - digits
    let (up, down) := tenPower t
    let (up2, down2) := Binary.twoPower (q - 2)
    (h.mid * (up2 * down) / (down2 * up), t)
  | fuel + 1, digits =>
    let t := point - digits
    let (up, down) := tenPower t
    let (up2, down2) := Binary.twoPower (q - 2)
    match h.gridPoint? (up2 * down) (down2 * up) with
    | some c => (c, t)
    | none => searchGrid h q point fuel (digits + 1)

/-- The shortest decimal that rounds to `m · 2^q`, for a positive `m`. -/
def shortest (f : Format) (m : Nat) (q : Int) : Digits :=
  let (c, t) := searchGrid (neighbourhood f m q) q (pointOf m q) 17 1
  ⟨stripZeros 20 c, digitCount c + t⟩

end Formulary.Decimal
