/-!
Binary floating-point formats and rounding. A finite number is `m · 2^q` with `m` below two to the
precision and `q` not below the exponent of the smallest unit. A ratio is rounded to the nearest
such number, and to the one with an even `m` when two are equally near.
-/

namespace Formulary.Binary

/-- A binary format: the digits of the significand, the exponent of the smallest unit, and the
power of two at which numbers are out of range. -/
structure Format where
  precision : Nat
  minExponent : Int
  maxExponent : Int

def binary64 : Format := ⟨53, -1074, 1024⟩
def binary32 : Format := ⟨24, -149, 128⟩
def binary16 : Format := ⟨11, -24, 16⟩

/-- The whole number nearest to a quotient; of two equally near ones the even one. -/
def divNearest (num den : Nat) : Nat :=
  let q := num / den
  let r := num % den
  if 2 * r < den then q else if den < 2 * r then q + 1 else q + q % 2

/-- Two to a power, as a numerator and a denominator. -/
def twoPower (q : Int) : Nat × Nat := (Nat.pow 2 q.toNat, Nat.pow 2 (-q).toNat)

def leadingExponent (num den : Nat) : Int :=
  let k : Int := (num.log2 : Int) - den.log2
  let (up, down) := twoPower k
  if den * up ≤ num * down then k else k - 1

/-- The exponent of the unit in which a positive ratio is rounded. -/
def Format.unitExponent (f : Format) (num den : Nat) : Int :=
  max f.minExponent (leadingExponent num den - f.precision + 1)

/-- The nearest number `m · 2^q` of the format to a ratio, or nothing when it is out of range. -/
def Format.round? (f : Format) (num den : Nat) : Option (Nat × Int) :=
  if num = 0 then some (0, f.minExponent)
  else
    let q := f.unitExponent num den
    let (up, down) := twoPower q
    let m := divNearest (num * down) (den * up)
    if f.maxExponent ≤ (m.log2 : Int) + q then none else some (m, q)

theorem divNearest_mul (n : Nat) {den : Nat} (h : 0 < den) : divNearest (n * den) den = n := by
  simp [divNearest, Nat.mul_div_cancel _ h, h]

/-- A quotient is rounded down when at most half of the divisor is left over, and up when at least
half of it is. -/
theorem divNearest_cases (num den : Nat) :
    (divNearest num den = num / den ∧ 2 * (num % den) ≤ den) ∨
      (divNearest num den = num / den + 1 ∧ den ≤ 2 * (num % den)) := by
  unfold divNearest
  dsimp only
  split
  · left; omega
  · split
    · right; omega
    · -- a tie, which the last digit of the quotient decides
      rcases Nat.mod_two_eq_zero_or_one (num / den) with h | h
      · left; omega
      · right; omega

theorem divNearest_le_two_mul (num den : Nat) : 2 * divNearest num den * den ≤ 2 * num + den := by
  have hdm : den * (num / den) + num % den = num := Nat.div_add_mod num den
  rcases divNearest_cases num den with ⟨hdown, hr⟩ | ⟨hup, hr⟩
  · rw [hdown, Nat.mul_assoc, Nat.mul_comm (num / den)]
    omega
  · rw [hup, Nat.mul_assoc, Nat.add_mul, Nat.mul_comm (num / den)]
    omega

end Formulary.Binary
