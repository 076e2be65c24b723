import Formulary.Decimal.Shortest
import Mathlib.Algebra.Order.Field.Power
import Mathlib.Algebra.Order.Field.Rat
import Mathlib.Tactic.FieldSimp
import Mathlib.Tactic.Linarith
import Mathlib.Tactic.NormNum
import Mathlib.Tactic.Positivity
import Mathlib.Tactic.Ring

/-!
# Digits and the numbers they write

The digits of a number bound it by powers of ten. Zeros at the end of a coefficient can be dropped, and
the position of the decimal point is where the magnitude has it.
-/

namespace Formulary.Decimal

variable {n k : Nat}

theorem digitCount_le_iff (hk : 0 < k) : digitCount n ≤ k ↔ n < 10 ^ k :=
  Nat.length_toDigits_le_iff (by decide) hk

theorem digitCount_pos (n : Nat) : 0 < digitCount n := Nat.length_toDigits_pos

theorem lt_pow_digitCount (n : Nat) : n < 10 ^ digitCount n :=
  (digitCount_le_iff (digitCount_pos n)).mp (Nat.le_refl _)

theorem pow_digitCount_le (h : 0 < n) : 10 ^ (digitCount n - 1) ≤ n := by
  have hpos := digitCount_pos n
  rcases Nat.eq_zero_or_pos (digitCount n - 1) with hone | hmore
  · rw [hone]
    exact h
  · have hnot : ¬ digitCount n ≤ digitCount n - 1 := by omega
    rw [digitCount_le_iff hmore] at hnot
    exact Nat.le_of_not_lt hnot

theorem digitCount_eq_of_bounds (hlow : 10 ^ k ≤ n) (hhigh : n < 10 ^ (k + 1)) :
    digitCount n = k + 1 := by
  apply Nat.le_antisymm
  · exact (digitCount_le_iff k.succ_pos).mpr hhigh
  · apply Nat.lt_of_not_le
    intro hle
    have hlt : n < 10 ^ k :=
      (lt_pow_digitCount n).trans_le (Nat.pow_le_pow_right (by decide) hle)
    omega

theorem digitCount_mul_pow (h : 0 < n) (k : Nat) : digitCount (n * 10 ^ k) = digitCount n + k := by
  have hpos := digitCount_pos n
  have hlow : 10 ^ (digitCount n - 1 + k) ≤ n * 10 ^ k := by
    rw [Nat.pow_add]
    exact Nat.mul_le_mul_right _ (pow_digitCount_le h)
  have hhigh : n * 10 ^ k < 10 ^ (digitCount n - 1 + k + 1) := by
    rw [show digitCount n - 1 + k + 1 = digitCount n + k by omega, Nat.pow_add]
    exact Nat.mul_lt_mul_of_pos_right (lt_pow_digitCount n) (Nat.pow_pos (by decide))
  rw [digitCount_eq_of_bounds hlow hhigh]
  omega

/-! ## Zeros at the end -/

theorem stripZeros_mul_pow (fuel : Nat) (h : 0 < n) :
    ∃ k, n = stripZeros fuel n * 10 ^ k ∧ 0 < stripZeros fuel n := by
  induction fuel generalizing n with
  | zero => exact ⟨0, by rw [stripZeros, Nat.pow_zero, Nat.mul_one], h⟩
  | succ fuel ih =>
    rw [stripZeros]
    split
    · rename_i hten
      have htenth : 0 < n / 10 := by omega
      obtain ⟨k, hk, hpos⟩ := ih htenth
      refine ⟨k + 1, ?_, hpos⟩
      rw [Nat.pow_succ, ← Nat.mul_assoc, ← hk]
      omega
    · exact ⟨0, by rw [Nat.pow_zero, Nat.mul_one], h⟩

theorem stripZeros_mod_ten {fuel : Nat} (h : 0 < n) (hfuel : n < 10 ^ fuel) :
    stripZeros fuel n % 10 ≠ 0 := by
  induction fuel generalizing n with
  | zero => omega
  | succ fuel ih =>
    rw [stripZeros]
    split
    · apply ih
      · omega
      · rw [Nat.pow_succ] at hfuel
        omega
    · omega

/-! ## The number that digits write -/

/-- The number that digits write. -/
def Digits.value (d : Digits) : ℚ :=
  d.coefficient * 10 ^ (d.point - digitCount d.coefficient)

theorem ten_zpow_pos (t : Int) : (0 : ℚ) < 10 ^ t := zpow_pos (by norm_num) t

theorem two_zpow_pos (q : Int) : (0 : ℚ) < 2 ^ q := zpow_pos (by norm_num) q

theorem Digits.value_stripZeros (fuel : Nat) (h : 0 < n) (t : Int) :
    (Digits.mk (stripZeros fuel n) (digitCount n + t)).value = n * 10 ^ t := by
  obtain ⟨k, hk, hpos⟩ := stripZeros_mul_pow fuel h
  have hcount : (digitCount n : Int) = digitCount (stripZeros fuel n) + k := by
    conv_lhs => rw [hk]
    rw [digitCount_mul_pow hpos]
    push_cast
    rfl
  have hcast : (n : ℚ) = stripZeros fuel n * 10 ^ (k : Int) := by
    rw [zpow_natCast]
    exact_mod_cast hk
  rw [Digits.value, hcount, hcast, mul_assoc, ← zpow_add₀ (by norm_num)]
  congr 2
  ring

theorem Digits.value_bounds {d : Digits} (h : 0 < d.coefficient) :
    (10 : ℚ) ^ (d.point - 1) ≤ d.value ∧ d.value < 10 ^ d.point := by
  have hpos := digitCount_pos d.coefficient
  have hlow : ((10 ^ (digitCount d.coefficient - 1) : Nat) : ℚ) ≤ d.coefficient :=
    Nat.cast_le.mpr (pow_digitCount_le h)
  have hhigh : (d.coefficient : ℚ) < ((10 ^ digitCount d.coefficient : Nat) : ℚ) :=
    Nat.cast_lt.mpr (lt_pow_digitCount _)
  rw [Nat.cast_pow, Nat.cast_ofNat, ← zpow_natCast] at hlow hhigh
  rw [Digits.value]
  constructor
  · calc (10 : ℚ) ^ (d.point - 1)
      _ = 10 ^ ((digitCount d.coefficient - 1 : Nat) : Int) *
          10 ^ (d.point - digitCount d.coefficient) := by
        rw [← zpow_add₀ (by norm_num)]
        congr 1
        omega
      _ ≤ _ := mul_le_mul_of_nonneg_right hlow (ten_zpow_pos _).le
  · calc (d.coefficient : ℚ) * 10 ^ (d.point - digitCount d.coefficient)
      _ < 10 ^ (digitCount d.coefficient : Int) * 10 ^ (d.point - digitCount d.coefficient) :=
        mul_lt_mul_of_pos_right hhigh (ten_zpow_pos _)
      _ = 10 ^ d.point := by
        rw [← zpow_add₀ (by norm_num)]
        congr 1
        omega

/-! ## Binary magnitudes -/

/-- The number `m · 2^q`. -/
def magnitude (m : Nat) (q : Int) : ℚ := m * 2 ^ q

theorem magnitude_pos {m : Nat} (h : 0 < m) (q : Int) : 0 < magnitude m q :=
  mul_pos (Nat.cast_pos.mpr h) (two_zpow_pos q)

theorem pointOf_bounds {m : Nat} (h : 0 < m) (q : Int) :
    (10 : ℚ) ^ (pointOf m q - 1) ≤ magnitude m q ∧ magnitude m q < 10 ^ pointOf m q := by
  -- both cases are digits of a whole number, with the point moved by the power of ten in it
  obtain ⟨n, t, hn, hvalue, hpoint⟩ : ∃ (n : Nat) (t : Int), 0 < n ∧
      magnitude m q = n * 10 ^ t ∧ pointOf m q = digitCount n + t := by
    rw [pointOf, magnitude]
    split
    · rename_i hq
      refine ⟨m * 2 ^ q.toNat, 0, Nat.mul_pos h (Nat.two_pow_pos _), ?_, (add_zero _).symm⟩
      obtain ⟨k, rfl⟩ := Int.eq_ofNat_of_zero_le hq
      simp
    · rename_i hq
      obtain ⟨k, rfl⟩ : ∃ k : Nat, q = -(k : Int) := ⟨(-q).toNat, by omega⟩
      refine ⟨m * 5 ^ k, -k, Nat.mul_pos h (Nat.pow_pos (by decide)), ?_, by simp⟩
      rw [show (10 : ℚ) = 5 * 2 by norm_num, mul_zpow]
      push_cast
      rw [zpow_neg, zpow_neg, zpow_natCast, zpow_natCast]
      field_simp
  have hbounds := Digits.value_bounds (d := ⟨n, digitCount n + t⟩) hn
  rw [Digits.value, add_sub_cancel_left, ← hvalue, ← hpoint] at hbounds
  exact hbounds

end Formulary.Decimal
