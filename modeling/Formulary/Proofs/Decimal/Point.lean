import Formulary.Proofs.Decimal.RoundTrip

/-!
# Where the decimal point moves

The decimal point of the shortest digits is behind the place of a power of ten from the double on that the
power is rounded to.
-/

namespace Formulary.Decimal

open Formulary.Binary

variable {m m' : Nat} {q q' e : Int}

theorem eq_of_contains_pow (hm : 0 < m) (hv : IsNormal m q) (hm' : 0 < m') (hw : IsNormal m' q')
    (h : (neighbourhood binary64 m q).Contains q (10 ^ e))
    (h' : (neighbourhood binary64 m' q').Contains q' (10 ^ e)) : m = m' ∧ q = q' := by
  rw [← Digits.value_one] at h h'
  have hread := (Digits.decode_read_iff Nat.one_pos hm hv false).mpr h
  have hread' := (Digits.decode_read_iff Nat.one_pos hm' hw false).mpr h'
  rw [hread] at hread'
  cases hread'
  exact ⟨rfl, rfl⟩

section Moves

variable (hm : 0 < m) (hv : IsNormal m q) (hm' : 0 < m') (hw : IsNormal m' q')
include hm hv hm' hw

/-- The point of a double is behind the place of a power of ten exactly from the double on that the power
is rounded to, if the point of that double is. -/
theorem lt_point_iff (hin : (neighbourhood binary64 m' q').Contains q' (10 ^ e))
    (hpoint : e < (shortest binary64 m' q').point) :
    e < (shortest binary64 m q).point ↔ magnitude m' q' ≤ magnitude m q := by
  have hshort := isShortest_shortest binary64 hm hv.lt_pow q
  obtain ⟨hfrom, hto⟩ := hshort.contains.bounds
  obtain ⟨hlow, hhigh⟩ := hin.bounds
  rw [← Digits.pow_le_value_iff hshort.pos]
  rcases lt_trichotomy (magnitude m q) (magnitude m' q') with hless | heq | hmore
  · have hapart := high_le_low hv hw hless
    refine iff_of_false (fun hle => ?_) (not_le.mpr hless)
    -- the power would be where both neighbourhoods end
    have hvalue : (shortest binary64 m q).value = 10 ^ e := by linarith
    have hcontains := hshort.contains
    rw [hvalue] at hcontains
    obtain ⟨rfl, rfl⟩ := eq_of_contains_pow hm hv hm' hw hcontains hin
    exact lt_irrefl _ hless
  · obtain ⟨rfl, rfl⟩ := eq_of_magnitude_eq hv hw heq
    refine iff_of_true ?_ le_rfl
    exact (Digits.pow_le_value_iff hshort.pos).mpr hpoint
  · have hapart := high_le_low hw hv hmore
    exact iff_of_true (by linarith) hmore.le

end Moves

/-! ## Powers of ten -/

theorem Neighbourhood.Contains.near {y : ℚ} (hm : 0 < m)
    (h : (neighbourhood binary64 m q).Contains q y) :
    magnitude m q - 2 * 2 ^ (q - 2) ≤ y ∧ y ≤ magnitude m q + 2 * 2 ^ (q - 2) := by
  obtain ⟨hlow, hhigh⟩ := h.bounds
  obtain ⟨below, hbelow, hlow', hhigh'⟩ := neighbourhood_ends binary64 hm q
  have hbelow' : (below : ℚ) * 2 ^ (q - 2) ≤ 2 * 2 ^ (q - 2) := by
    apply mul_le_mul_of_nonneg_right _ (two_zpow_pos (q - 2)).le
    exact_mod_cast (by omega : below ≤ 2)
  rw [hlow'] at hlow
  rw [hhigh'] at hhigh
  rw [magnitude_quarters]
  constructor <;> linarith

/-- The shortest digits of a double that a power of ten is rounded to are that power. -/
theorem lt_point_of_contains_pow (hm : 2 ^ 52 ≤ m) (hv : IsNormal m q)
    (hin : (neighbourhood binary64 m q).Contains q (10 ^ e)) :
    e < (shortest binary64 m q).point := by
  have hpos : 0 < m := Nat.lt_of_lt_of_le (by decide) hm
  have hshort := isShortest_shortest binary64 hpos hv.lt_pow q
  have hunit := two_zpow_pos (q - 2)
  have hten : (10 : ℚ) ^ e = 10 * 10 ^ (e - 1) := by
    rw [← zpow_one_add₀ (by norm_num), add_sub_cancel]
  have hone : digitCount (shortest binary64 m q).coefficient ≤ digitCount 1 := by
    apply hshort.fewest ⟨1, e + 1⟩ Nat.one_pos
    rwa [Digits.value_one]
  have hdigit : (shortest binary64 m q).coefficient < 10 := (digitCount_le_iff Nat.one_pos).mp hone
  by_contra hfar
  have hvalue : (shortest binary64 m q).value ≤ 9 * 10 ^ (e - 1) := by
    have hcount := digitCount_pos (shortest binary64 m q).coefficient
    have hpow : (10 : ℚ) ^ ((shortest binary64 m q).point -
        digitCount (shortest binary64 m q).coefficient) ≤ 10 ^ (e - 1) :=
      zpow_le_zpow_right₀ (by norm_num) (by omega)
    have hcoefficient : ((shortest binary64 m q).coefficient : ℚ) ≤ 9 := by
      exact_mod_cast (by omega : (shortest binary64 m q).coefficient ≤ 9)
    exact mul_le_mul hcoefficient hpow (ten_zpow_pos _).le (by norm_num)
  -- both are next to the double, and nine tenths are too far from one
  have hnear := hin.near hpos
  have hnear' := hshort.contains.near hpos
  have hlead : (2 ^ 52 : ℚ) * 2 ^ (q - 2) ≤ m * 2 ^ (q - 2) :=
    mul_le_mul_of_nonneg_right (by exact_mod_cast hm) hunit.le
  rw [magnitude_quarters] at hnear hnear'
  linarith

variable {place : Nat}

/-- A power of ten of few digits is a double. -/
theorem exists_magnitude_eq_pow (hplace : place ≤ 22) :
    ∃ m q, 2 ^ 52 ≤ m ∧ IsNormal m q ∧ magnitude m q = 10 ^ (place : Int) := by
  have hpos : 0 < 5 ^ place := Nat.pow_pos (by decide)
  have hsmall : 5 ^ place < 2 ^ 53 :=
    Nat.lt_of_le_of_lt (Nat.pow_le_pow_right (by decide) hplace) (by decide)
  have hlog : (5 ^ place).log2 < 53 := (Nat.log2_lt (Nat.ne_of_gt hpos)).mpr hsmall
  obtain ⟨k, hk⟩ := Nat.exists_eq_add_of_le (Nat.le_of_lt_succ hlog)
  have hlead : (5 ^ place * 2 ^ k).log2 = 52 := by rw [log2_mul_pow hpos, hk]
  have hne : 5 ^ place * 2 ^ k ≠ 0 := Nat.ne_of_gt (Nat.mul_pos hpos (Nat.pow_pos (by decide)))
  obtain ⟨hlow, hhigh⟩ := (Nat.log2_eq_iff hne).mp hlead
  refine ⟨5 ^ place * 2 ^ k, place - k, hlow, .inr ⟨hlow, hhigh, by omega, by omega⟩, ?_⟩
  calc magnitude (5 ^ place * 2 ^ k) (place - k)
    _ = 5 ^ place * (2 ^ k * 2 ^ ((place : Int) - k)) := by
      rw [magnitude]
      push_cast
      ring
    _ = 5 ^ place * 2 ^ (place : Int) := by
      rw [← zpow_natCast 2 k, ← zpow_add₀ two_ne_zero, add_sub_cancel]
    _ = 10 ^ (place : Int) := by
      rw [zpow_natCast, zpow_natCast, ← mul_pow]
      norm_num

/-- The point is behind the place of a power of ten that is a double exactly from it on. -/
theorem lt_point_iff_pow (hm : 0 < m) (hv : IsNormal m q) (hplace : place ≤ 22) :
    (place : Int) < (shortest binary64 m q).point ↔ 10 ^ place ≤ magnitude m q := by
  obtain ⟨m', q', hlead, hw, hpow⟩ := exists_magnitude_eq_pow hplace
  have hm' : 0 < m' := Nat.lt_of_lt_of_le (by decide) hlead
  have hin : (neighbourhood binary64 m' q').Contains q' (magnitude m' q') := contains_self hm'
  rw [hpow] at hin
  rw [lt_point_iff hm hv hm' hw hin (lt_point_of_contains_pow hlead hw hin), hpow, zpow_natCast]

/-- The double nearest to a one at a decimal place. -/
def nearestPlace (place : Nat) : ℚ :=
  ((decode (nearest binary64 false 1 (10 ^ place))).number?).getD 0

theorem place_ratio : ((1 : Nat) / (10 ^ place : Nat) : ℚ) = 10 ^ (-(place : Int)) := by
  rw [zpow_neg, zpow_natCast, Nat.cast_one, Nat.cast_pow, Nat.cast_ofNat, one_div]

theorem place_bounds (hplace : place ≤ 300) :
    (2 : ℚ) ^ (-1000 : Int) ≤ 10 ^ (-(place : Int)) ∧ (10 : ℚ) ^ (-(place : Int)) ≤ 2 ^ (0 : Int) := by
  constructor
  · have hpow : ((10 : ℚ) ^ 3) ^ 100 ≤ (2 ^ 10) ^ 100 := pow_le_pow_left₀ (by norm_num) (by norm_num) 100
    calc (2 : ℚ) ^ (-1000 : Int)
      _ = ((2 ^ 10) ^ 100)⁻¹ := by rw [← pow_mul, ← zpow_natCast, ← zpow_neg]; rfl
      _ ≤ ((10 ^ 3) ^ 100)⁻¹ := inv_anti₀ (by positivity) hpow
      _ = 10 ^ (-300 : Int) := by rw [← pow_mul, ← zpow_natCast, ← zpow_neg]; rfl
      _ ≤ 10 ^ (-(place : Int)) := zpow_le_zpow_right₀ (by norm_num) (by omega)
  · calc (10 : ℚ) ^ (-(place : Int))
      _ ≤ 10 ^ (0 : Int) := zpow_le_zpow_right₀ (by norm_num) (by omega)
      _ = 2 ^ (0 : Int) := by rw [zpow_zero, zpow_zero]

/-- A one at a decimal place is rounded to a double of full precision. -/
theorem exists_nearest_place (hplace : place ≤ 300) :
    ∃ m q, 2 ^ 52 ≤ m ∧ IsNormal m q ∧
      decode (nearest binary64 false 1 (10 ^ place)) = .finite false m q := by
  have hden : 0 < 10 ^ place := Nat.pow_pos (by decide)
  obtain ⟨n, t, hunit, hround⟩ := exists_round? Nat.one_pos hden
  obtain ⟨hfrom, hto⟩ := place_bounds hplace
  rw [← place_ratio] at hfrom hto
  have ht : t ≠ -1074 := by
    rintro rfl
    have hlt := (zpow_lt_zpow_iff_right₀ (one_lt_two (α := ℚ))).mp (hfrom.trans_lt hunit.2.1)
    omega
  have hlead := leading_of_roundsTo hunit hround ht
  have hn : 0 < n := Nat.lt_of_lt_of_le (by decide) hlead
  have hrange : (n.log2 : Int) + t < 1024 := by
    have hle := (zpow_le_zpow_iff_right₀ (one_lt_two (α := ℚ))).mp
      ((hunit.2.2.resolve_left ht).trans hto)
    have hlog := log2_le_log2 (Nat.ne_of_gt hn) (le_pow_of_roundsTo hunit hround)
    rw [Nat.log2_two_pow] at hlog
    omega
  obtain ⟨m, q, hcarries, hv, hm, -⟩ := contains_of_rounds hunit hround hn hrange
  have heq := round?_eq Nat.one_pos hden hunit hround
  rw [if_neg (not_le.mpr hrange)] at heq
  refine ⟨m, q, ?_, hv, decode_nearest heq hcarries hm hv false⟩
  rcases hcarries with ⟨-, rfl, -⟩ | ⟨-, rfl, -⟩
  · exact hlead
  · exact le_rfl

/-- The point is behind a place exactly from the double on that is nearest to a one at that place. -/
theorem lt_point_iff_nearestPlace (hm : 0 < m) (hv : IsNormal m q) (hplace : place ≤ 300) :
    -(place : Int) < (shortest binary64 m q).point ↔ nearestPlace place ≤ magnitude m q := by
  obtain ⟨m', q', hlead, hw, hdecode⟩ := exists_nearest_place hplace
  have hm' : 0 < m' := Nat.lt_of_lt_of_le (by decide) hlead
  have hnumber : nearestPlace place = magnitude m' q' := by
    rw [nearestPlace, hdecode]
    rfl
  have hin := (decode_nearest_iff Nat.one_pos (Nat.pow_pos (by decide)) hm' hw false).mp hdecode
  rw [place_ratio] at hin
  rw [hnumber, lt_point_iff hm hv hm' hw hin (lt_point_of_contains_pow hlead hw hin)]

end Formulary.Decimal
