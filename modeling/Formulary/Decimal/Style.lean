import Formulary.Binary.Decode
import Formulary.Decimal.Shortest

/-!
Decimal text of floating-point numbers. The digits are the shortest ones that read back; a style
says which magnitudes are written positionally and how an exponent looks.
-/

namespace Formulary.Decimal

open Formulary.Binary (Format Decoded)

/-- How the digits of a number are laid out. -/
structure Style where
  /-- Least exponent of the leading digit that is written positionally. -/
  positionalFrom : Int
  /-- First exponent of the leading digit that is not. -/
  positionalBelow : Int
  /-- Whether a whole number written positionally ends in `.0`. -/
  wholeMark : Bool
  /-- Least number of digits of an exponent. -/
  exponentWidth : Nat
  nan : String
  infinity : String

def numeral (n : Nat) : List Char := Nat.toDigits 10 n

def padded (width n : Nat) : List Char :=
  let ds := numeral n
  List.replicate (width - ds.length) '0' ++ ds

/-- The digits with the point in its place, zeros filling the gap to it. -/
def positional (wholeMark : Bool) (ds : List Char) (point : Int) : List Char :=
  if point ≤ 0 then '0' :: '.' :: List.replicate (-point).toNat '0' ++ ds
  else
    let n := point.toNat
    if ds.length ≤ n then
      ds ++ List.replicate (n - ds.length) '0' ++ (if wholeMark then ['.', '0'] else [])
    else ds.take n ++ '.' :: ds.drop n

/-- The digits with the point behind the first one, and a signed exponent. -/
def scientific (width : Nat) (ds : List Char) (exponent : Int) : List Char :=
  let mantissa := match ds with
    | [] => []
    | [d] => [d]
    | d :: rest => d :: '.' :: rest
  mantissa ++ 'e' :: (if exponent < 0 then '-' else '+') :: padded width exponent.natAbs

def Style.layout (st : Style) (d : Digits) : List Char :=
  let ds := numeral d.coefficient
  let exponent := d.point - 1
  if st.positionalFrom ≤ exponent ∧ exponent < st.positionalBelow then
    positional st.wholeMark ds d.point
  else scientific st.exponentWidth ds exponent

/-- The text of what the bits of a number say. -/
def Style.write (st : Style) (f : Format) : Decoded → String
  | .nan => st.nan
  | .infinite negative => (if negative then "-" else "") ++ st.infinity
  | .finite negative m q =>
    let digits := if m = 0 then ⟨0, 1⟩ else shortest f m q
    String.ofList ((if negative then ['-'] else []) ++ st.layout digits)

/-- Numbers as the formula language itself writes them: positional from `10^-4` to below `10^16`,
a whole number marked by `.0`, and exponents of at least two digits. -/
def sourceStyle : Style := ⟨-4, 16, true, 2, "nan", "inf"⟩

/-- The parts of complex numbers: as in the formula language, without the mark of whole numbers. -/
def partStyle : Style := { sourceStyle with wholeMark := false }

/-- Numbers on display: a whole number has no mark, and exponents are not padded. -/
def displayStyle : Style := ⟨-4, 16, false, 1, "NaN", "Infinity"⟩

def source (x : Float) : String := sourceStyle.write Binary.binary64 (Binary.decode x)

end Formulary.Decimal
