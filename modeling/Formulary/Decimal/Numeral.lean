import Formulary.Binary.Decode
import Formulary.Text.Digit
import Formulary.Text.Quoted

/-!
Numerals read as numbers. Digits may be grouped by single underscores. A whole number is exact and
bounded in its number of digits; every other numeral is rounded to the nearest double.
-/

namespace Formulary.Decimal

/-- The most digits of a decimal numeral that is read as an integer, or printed from one. -/
def maxIntegerDigits : Nat := 4300

/-- The number that digits write in a base; digits beyond nine are the letters from `a`. -/
def ofDigits (base : Nat) (ds : List Char) : Nat :=
  ds.foldl (fun n c => base * n + (if c.isDigit then c.toNat - '0'.toNat
    else c.toLower.toNat - 'a'.toNat + 10)) 0

/-- Removes underscores, each of which must stand between two digits. -/
def ungroup : List Char → Option (List Char)
  | [] => some []
  | '_' :: _ => none
  | c :: '_' :: d :: rest =>
    if c.isDigit ∧ d.isDigit then (ungroup (d :: rest)).map (c :: ·) else none
  | [_, '_'] => none
  | c :: rest => (ungroup rest).map (c :: ·)

def splitSign : List Char → Bool × List Char
  | '-' :: rest => (true, rest)
  | '+' :: rest => (false, rest)
  | cs => (false, cs)

inductive IntegerError where
  /-- The text has not the form of an integer. -/
  | malformed (text : String)
  /-- The text has more digits than are read. -/
  | tooManyDigits (count : Nat)
deriving DecidableEq, Repr

namespace IntegerError

/-- The length to which a malformed text is shown. -/
def shownText : Nat := 200

def message : IntegerError → String
  | malformed text =>
    "invalid literal for int() with base 10: " ++
      String.ofList ((Text.quoted text).toList.take shownText)
  | tooManyDigits count =>
    s!"Exceeds the limit ({maxIntegerDigits} digits) for integer string conversion: value has " ++
      s!"{count} digits; use sys.set_int_max_str_digits() to increase the limit"

end IntegerError

/-- Reads an integer: an optional sign and digits. Too many digits are refused before what follows
them is looked at. -/
def readInt (s : String) : Except IntegerError Int :=
  let (negative, cs) := splitSign (Text.plainNumeral s)
  let numeral := cs.takeWhile fun c => c.isDigit || c == '_'
  match ungroup numeral with
  | none | some [] => .error (.malformed s)
  | some ds =>
    if maxIntegerDigits < ds.length then .error (.tooManyDigits ds.length)
    else if numeral.length < cs.length then .error (.malformed s)
    else
      let n := ofDigits 10 ds
      .ok (if negative then -(n : Int) else n)

/-- The double nearest to `c · 10^e`. Exponents far out of range are settled by the number of digits
alone. -/
def nearestDecimal (negative : Bool) (digits : List Char) (e : Int) : Float :=
  let c := ofDigits 10 digits
  let size : Int := digits.length + e
  if c = 0 then Binary.encode negative 0 (-1074)
  else if 400 < size ∧ 400 < (digits.dropWhile (· == '0')).length + e then Binary.infinity negative
  else if size < -400 then Binary.encode negative 0 (-1074)
  else Binary.nearest Binary.binary64 negative (c * Nat.pow 10 e.toNat)
    (Nat.pow 10 (-e).toNat)

/-- The parts of an unsigned numeral: the digits before and after the point and the exponent. -/
structure Parts where
  whole : List Char
  fraction : List Char
  exponent : Int

/-- Splits an unsigned numeral; a point or an exponent may be missing, digits may not. -/
def splitParts? (cs : List Char) : Option Parts :=
  let whole := cs.takeWhile Char.isDigit
  let rest := cs.dropWhile Char.isDigit
  let (fraction, rest) := match rest with
    | '.' :: more => (more.takeWhile Char.isDigit, more.dropWhile Char.isDigit)
    | _ => ([], rest)
  if whole.isEmpty && fraction.isEmpty then none
  else
    match rest with
    | [] => some ⟨whole, fraction, 0⟩
    | c :: more =>
      if c = 'e' ∨ c = 'E' then
        let (negative, ds) := splitSign more
        if ds.isEmpty || !ds.all Char.isDigit then none
        else
          let n := ofDigits 10 ds
          some ⟨whole, fraction, if negative then -(n : Int) else n⟩
      else none

def Parts.toFloat (negative : Bool) (p : Parts) : Float :=
  nearestDecimal negative (p.whole ++ p.fraction) (p.exponent - p.fraction.length)

/-- Reads a double: a numeral with optional sign, point and exponent, or a name of infinity or of
the undefined number, in any case. -/
def readFloat? (s : String) : Option Float := do
  let cs ← ungroup (Text.plainNumeral s)
  let (negative, cs) := splitSign cs
  let word := String.ofList (cs.map Char.toLower)
  if word = "inf" ∨ word = "infinity" then return Binary.infinity negative
  else if word = "nan" then return Binary.nan
  else return (← splitParts? cs).toFloat negative

end Formulary.Decimal
