/-!
Bitwise operations on integers of any size, read as endless rows of binary digits: a negative
integer is the complement of the natural number below its magnitude.
-/

namespace Formulary.Bits

/-- The digits of `x` where those of `y` are zero. -/
def without (x y : Nat) : Nat := x ^^^ (x &&& y)

def complement (n : Int) : Int := -n - 1

def and : Int → Int → Int
  | .ofNat x, .ofNat y => (x &&& y : Nat)
  | .ofNat x, .negSucc y => (without x y : Nat)
  | .negSucc x, .ofNat y => (without y x : Nat)
  | .negSucc x, .negSucc y => .negSucc (x ||| y)

def or (a b : Int) : Int := complement (and (complement a) (complement b))

def xor : Int → Int → Int
  | .ofNat x, .ofNat y => (x ^^^ y : Nat)
  | .ofNat x, .negSucc y => .negSucc (x ^^^ y)
  | .negSucc x, .ofNat y => .negSucc (x ^^^ y)
  | .negSucc x, .negSucc y => (x ^^^ y : Nat)

def shiftLeft (a : Int) (k : Nat) : Int := a * (Nat.pow 2 k : Int)

/-- Shifting right rounds toward the lower integer. -/
def shiftRight (a : Int) (k : Nat) : Int := a.fdiv (Nat.pow 2 k : Int)

end Formulary.Bits
