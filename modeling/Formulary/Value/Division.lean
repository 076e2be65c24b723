import Formulary.Binary.Decode

/-!
Division of reals into a whole quotient and a remainder that has the sign of the divisor.
-/

namespace Formulary.Division

def zeroLike (x : Float) : Float := Binary.withSign 0 x

/-- The whole quotient and the remainder, for a divisor that is not zero, every step being rounded by
a function. -/
def divModBy (fit : Float → Float) (a b : Float) : Float × Float :=
  let rest := Binary.remainder a b
  let quotient := fit (fit (a - rest) / b)
  let (rest, quotient) :=
    if rest != 0 then
      if (b < 0) != (rest < 0) then (fit (rest + b), fit (quotient - 1)) else (rest, quotient)
    else (zeroLike b, quotient)
  let whole :=
    if quotient != 0 then
      let down := Binary.floor quotient
      if fit (quotient - down) > 0.5 then fit (down + 1) else down
    else zeroLike (a / b)
  (whole, rest)

def divMod (a b : Float) : Float × Float := divModBy id a b

/-- The whole quotient of machine reals; a zero divisor divides as usual. -/
def machineDiv (fit : Float → Float) (a b : Float) : Float :=
  if b == 0 then a / b else (divModBy fit a b).1

/-- The remainder of machine reals; a zero divisor leaves no number. -/
def machineMod (fit : Float → Float) (a b : Float) : Float :=
  if b == 0 then Binary.nan else (divModBy fit a b).2

end Formulary.Division
