import Formulary.Decimal.Style

/-!
Reals written with a chosen number of digits: so many behind the point, or so many in all. A number
between two such decimals is written as the nearer one, and as the one with an even last digit if both
are equally near.
-/

namespace Formulary.Decimal

open Formulary.Binary (Decoded)

/-- How many digits of a real are written, and how they are laid out. -/
inductive NumeralForm where
  /-- A number of places behind the point. -/
  | fixed (places : Nat)
  /-- One digit in front of the point, a number of places behind it, and an exponent. -/
  | scientific (places : Nat)
  /-- At most a number of digits, without zeros at their end; the size of the number decides whether
  an exponent is written, and `wholeMark` asks for a fraction where none is. -/
  | general (count : Nat) (wholeMark : Bool)
  /-- The fewest digits that read back, laid out like numbers of the formula language. -/
  | shortest (wholeMark : Bool)
deriving DecidableEq, Repr

/-- The style of a numeral: `keepPoint` writes a point, and all digits asked for, even where nothing
but zeros follows. -/
structure NumeralStyle where
  form : NumeralForm
  keepPoint : Bool := false
  capitals : Bool := false
deriving DecidableEq, Repr

/-- The decimal of `count` digits nearest to `m · 2^q`, for positive `m` and `count`. -/
def roundToCount (count m : Nat) (q : Int) : Digits :=
  let point := pointOf m q
  let (up, down) := tenPower (count - point)
  let (up2, down2) := Binary.twoPower q
  let c := Binary.divNearest (m * up2 * up) (down2 * down)
  if c = Nat.pow 10 count then ⟨Nat.pow 10 (count - 1), point + 1⟩ else ⟨c, point⟩

/-- The whole number nearest to `m · 2^q · 10^places`. -/
def roundToPlaces (places m : Nat) (q : Int) : Nat :=
  let (up, down) := Binary.twoPower q
  Binary.divNearest (m * up * Nat.pow 10 places) down

/-- Digits with the last `places` of them behind a point. -/
def splitPlaces (places : Nat) (ds : List Char) : List Char :=
  let whole := ds.length - places
  if places = 0 then ds else ds.take whole ++ '.' :: ds.drop whole

/-- Puts a point behind the digits if there is none. -/
def withPoint (cs : List Char) : List Char :=
  let (mantissa, rest) := cs.span (· ≠ 'e')
  if mantissa.contains '.' then cs else mantissa ++ '.' :: rest

/-- The text of `m · 2^q`. -/
def NumeralStyle.layout (st : NumeralStyle) (m : Nat) (q : Int) : List Char :=
  let rounded := fun (count : Nat) => if m = 0 then ⟨0, 1⟩ else roundToCount count m q
  match st.form with
  | .fixed places => splitPlaces places (padded (places + 1) (roundToPlaces places m q))
  | .scientific places =>
    let d := rounded (places + 1)
    let ds := numeral d.coefficient
    scientific 2 (ds ++ List.replicate (places + 1 - ds.length) '0') (d.point - 1)
  | .general count wholeMark =>
    let count := max count 1
    let d := rounded count
    let ds := numeral (stripZeros count d.coefficient)
    let ds := if st.keepPoint then ds ++ List.replicate (count - ds.length) '0' else ds
    let limit : Int := if wholeMark then count - 1 else count
    if d.point ≤ -4 ∨ limit < d.point then scientific 2 ds (d.point - 1)
    else positional wholeMark ds d.point
  | .shortest wholeMark =>
    { sourceStyle with wholeMark }.layout (if m = 0 then ⟨0, 1⟩ else shortest Binary.binary64 m q)

def NumeralStyle.write (st : NumeralStyle) (x : Float) : List Char :=
  let text := match Binary.decode x with
    | .nan => "nan".toList
    | .infinite _ => "inf".toList
    | .finite _ m q =>
      let cs := st.layout m q
      if st.keepPoint then withPoint cs else cs
  if st.capitals then text.map Char.toUpper else text

end Formulary.Decimal
