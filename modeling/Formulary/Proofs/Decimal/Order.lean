import Formulary.Proofs.Binary.Number
import Formulary.Proofs.Decimal.Shortest

/-!
# The order of doubles and of their shortest decimals

The shortest decimal of a number is not below a power of ten that the number is not below. The
neighbourhoods of two doubles are in the order of the doubles.
-/

namespace Formulary.Decimal

open Formulary.Binary (IsNormal binary64)

variable {f : Binary.Format} {m m' : Nat} {q q' e : Int} {d : Digits}

/-! ## Powers of ten -/

theorem Digits.value_one (e : Int) : (Digits.mk 1 (e + 1)).value = 10 ^ e := by
  have hcount : digitCount 1 = 1 := by decide
  rw [value, hcount, Nat.cast_one, one_mul, Nat.cast_one, add_sub_cancel_right]

theorem Digits.pow_le_value_iff (h : 0 < d.coefficient) : 10 ^ e ≤ d.value ↔ e < d.point := by
  obtain ⟨hlow, hhigh⟩ := Digits.value_bounds h
  constructor
  · intro hle
    exact (zpow_lt_zpow_iff_right₀ (by norm_num)).mp (hle.trans_lt hhigh)
  · intro hlt
    exact (zpow_le_zpow_right₀ (by norm_num) (by omega)).trans hlow

variable (h : IsShortest f m q d)
include h

/-- No power of ten in the neighbourhood is closer to the number than its shortest decimal. -/
theorem IsShortest.le_of_contains_pow (hin : (neighbourhood f m q).Contains q (10 ^ e)) :
    |d.value - magnitude m q| ≤ |10 ^ e - magnitude m q| := by
  rw [← Digits.value_one] at hin ⊢
  have hone : digitCount 1 = 1 := by decide
  have hfewest : digitCount d.coefficient ≤ digitCount 1 := h.fewest _ Nat.one_pos hin
  have hpos := digitCount_pos d.coefficient
  apply h.nearest _ Nat.one_pos hin
  show digitCount 1 = digitCount d.coefficient
  omega

theorem IsShortest.pow_le (hm : 0 < m) (hle : 10 ^ e ≤ magnitude m q) : 10 ^ e ≤ d.value := by
  by_contra hlt
  rw [not_le] at hlt
  have hnear := h.le_of_contains_pow (h.contains.between (contains_self hm) hlt.le hle)
  rw [abs_of_nonpos (by linarith), abs_of_nonpos (by linarith)] at hnear
  linarith

omit h

/-! ## Neighbourhoods of two doubles -/

theorem magnitude_le_of_le (h : m ≤ m') (q : Int) : magnitude m q ≤ magnitude m' q :=
  mul_le_mul_of_nonneg_right (Nat.cast_le.mpr h) (two_zpow_pos q).le

theorem magnitude_le_of_exponent (m : Nat) (h : q ≤ q') : magnitude m q ≤ magnitude m q' :=
  mul_le_mul_of_nonneg_left (zpow_le_zpow_right₀ one_le_two h) (Nat.cast_nonneg m)

theorem magnitude_two_mul (m : Nat) (q : Int) : magnitude (2 * m) q = magnitude m (q + 1) := by
  rw [magnitude, magnitude, zpow_add_one₀ two_ne_zero]
  push_cast
  ring

theorem magnitude_lt_iff (q : Int) : magnitude m q < magnitude m' q ↔ m < m' := by
  rw [magnitude, magnitude, mul_lt_mul_iff_left₀ (two_zpow_pos q), Nat.cast_lt]

/-- A double in a smaller unit is below one in a greater unit. -/
theorem magnitude_lt_of_exponent (hv : IsNormal m q) (hw : IsNormal m' q') (h : q < q') :
    magnitude m q < magnitude m' q' := by
  have hlead : 2 ^ 52 ≤ m' := hw.leading_of_exponent (hv.exponent_range.1.trans_lt h)
  calc magnitude m q
    _ < magnitude (2 * 2 ^ 52) q := (magnitude_lt_iff q).mpr hv.lt_pow
    _ = magnitude (2 ^ 52) (q + 1) := magnitude_two_mul _ _
    _ ≤ magnitude (2 ^ 52) q' := magnitude_le_of_exponent _ h
    _ ≤ magnitude m' q' := magnitude_le_of_le hlead q'

theorem eq_of_magnitude_eq (hv : IsNormal m q) (hw : IsNormal m' q')
    (heq : magnitude m q = magnitude m' q') : m = m' ∧ q = q' := by
  rcases lt_trichotomy q q' with hbefore | rfl | hbehind
  · exact absurd heq (magnitude_lt_of_exponent hv hw hbefore).ne
  · rw [magnitude, magnitude, mul_left_inj' (two_zpow_pos q).ne', Nat.cast_inj] at heq
    exact ⟨heq, rfl⟩
  · exact absurd heq (magnitude_lt_of_exponent hw hv hbehind).ne'

theorem le_low_of_leading (hm : 2 ^ 52 ≤ m) (hq : -1074 < q) :
    2 ^ 54 - 1 ≤ (neighbourhood binary64 m q).low := by
  rw [neighbourhood]
  dsimp only
  split
  · omega
  · rename_i hnot
    have hne : m ≠ 2 ^ 52 := fun hpower => hnot ⟨hpower, hq⟩
    omega

/-- The neighbourhood of a double is below that of a greater one. -/
theorem high_le_low (hv : IsNormal m q) (hw : IsNormal m' q')
    (hlt : magnitude m q < magnitude m' q') :
    magnitude (neighbourhood binary64 m q).high (q - 2) ≤
      magnitude (neighbourhood binary64 m' q').low (q' - 2) := by
  have hhigh : (neighbourhood binary64 m q).high = 4 * m + 2 := rfl
  have hm := hv.lt_pow
  rcases lt_trichotomy q q' with hbefore | rfl | hbehind
  · -- the greater one has a leading digit, the other one at most 53 digits of a smaller unit
    have hq' : -1074 < q' := hv.exponent_range.1.trans_lt hbefore
    have hlead := hw.leading_of_exponent hq'
    calc magnitude (neighbourhood binary64 m q).high (q - 2)
      _ ≤ magnitude (2 * (2 ^ 54 - 1)) (q - 2) := magnitude_le_of_le (by omega) _
      _ = magnitude (2 ^ 54 - 1) (q - 2 + 1) := magnitude_two_mul _ _
      _ ≤ magnitude (2 ^ 54 - 1) (q' - 2) := magnitude_le_of_exponent _ (by omega)
      _ ≤ _ := magnitude_le_of_le (le_low_of_leading hlead hq') _
  · have hless := (magnitude_lt_iff q).mp hlt
    apply magnitude_le_of_le
    rw [hhigh, neighbourhood]
    dsimp only
    split <;> omega
  · exact absurd hlt (magnitude_lt_of_exponent hw hv hbehind).not_gt

end Formulary.Decimal
