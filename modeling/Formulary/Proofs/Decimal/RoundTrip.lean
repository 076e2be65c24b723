import Formulary.Proofs.Binary.Rounding
import Formulary.Proofs.Decimal.Notation
import Formulary.Proofs.Decimal.Order
import Formulary.Proofs.Decimal.Reading

/-!
# Digits that read back

The neighbourhood of a double holds exactly the numbers that are rounded to it. So the shortest decimal is
read as the double that it was made from, no decimal that is has fewer digits, and none with as few is
nearer to it.
-/

namespace Formulary.Decimal

open Formulary.Binary

variable {m n : Nat} {q t : Int} {y : ℚ}

/-- A number of units as it is rounded to, and the same with a significand of 53 digits. -/
def Carries (n : Nat) (t : Int) (m : Nat) (q : Int) : Prop :=
  (n ≠ 2 ^ 53 ∧ m = n ∧ q = t) ∨ (n = 2 ^ 53 ∧ m = 2 ^ 52 ∧ q = t + 1)

/-! ## The neighbourhood as what is rounded -/

theorem two_zpow_eq (k : Nat) (h : q = t + k) : (2 : ℚ) ^ q = 2 ^ k * 2 ^ t := by
  rw [h, zpow_add₀ two_ne_zero, zpow_natCast, mul_comm]

/-- But for the lower end below a power of two, the neighbourhood is what is nearest to the units. -/
theorem contains_iff_roundsTo (hm : 0 < m) (h : ¬ (m = 2 ^ 52 ∧ -1074 < q)) :
    (neighbourhood binary64 m q).Contains q y ↔ RoundsTo y m q := by
  obtain ⟨below, ⟨rfl, -⟩ | ⟨-, hpower⟩, hlow, hhigh⟩ := neighbourhood_ends binary64 hm q
  · have hclosed : (neighbourhood binary64 m q).closed = decide (m % 2 = 0) := rfl
    unfold Neighbourhood.Contains RoundsTo
    rw [hlow, hhigh, hclosed]
    simp only [decide_eq_true_eq, Nat.cast_ofNat]
  · exact absurd hpower h

theorem contains_power_iff (h : -1074 < q) :
    (neighbourhood binary64 (2 ^ 52) q).Contains q y ↔
      (2 ^ 54 - 1) * 2 ^ (q - 2) ≤ y ∧ y ≤ (2 ^ 54 + 2) * 2 ^ (q - 2) := by
  obtain ⟨below, ⟨-, hnot⟩ | ⟨rfl, -⟩, hlow, hhigh⟩ :=
    neighbourhood_ends binary64 (m := 2 ^ 52) (by decide) q
  · exact absurd ⟨rfl, h⟩ hnot
  · have hclosed : (neighbourhood binary64 (2 ^ 52) q).closed = true := rfl
    unfold Neighbourhood.Contains
    rw [hlow, hhigh, hclosed, if_pos rfl]
    norm_num

theorem rounds_of_contains_power (hq : -1074 < q)
    (hy : (neighbourhood binary64 (2 ^ 52) q).Contains q y) :
    ∃ n t, IsUnitOf t y ∧ RoundsTo y n t ∧ Carries n t (2 ^ 52) q := by
  have hunit := two_zpow_pos (q - 2)
  have hlead : (2 : ℚ) ^ (q + 52) = 2 ^ 54 * 2 ^ (q - 2) := two_zpow_eq 54 (by omega)
  have hover : (2 : ℚ) ^ (q + 53) = 2 ^ 55 * 2 ^ (q - 2) := two_zpow_eq 55 (by omega)
  obtain ⟨hlow, hhigh⟩ := (contains_power_iff hq).mp hy
  rcases le_or_gt (2 ^ (q + 52)) y with habove | hbelow
  · refine ⟨2 ^ 52, q, ⟨hq.le, ?_, .inr habove⟩, ?_, .inl ⟨by decide, rfl, rfl⟩⟩
    · linarith
    · rw [RoundsTo, if_pos (by decide)]
      push_cast
      constructor <;> linarith
  · -- the unit below is half of this one, and the significand the next power of two
    have hhalf : (2 : ℚ) ^ (q - 2) = 2 ^ 1 * 2 ^ (q - 1 - 2) := two_zpow_eq 1 (by omega)
    have hlead' : (2 : ℚ) ^ (q - 1 + 52) = 2 ^ 53 * 2 ^ (q - 2) := two_zpow_eq 53 (by omega)
    have hover' : (2 : ℚ) ^ (q - 1 + 53) = 2 ^ (q + 52) := by
      congr 1
      ring
    refine ⟨2 ^ 53, q - 1, ⟨by omega, ?_, .inr ?_⟩, ?_, .inr ⟨rfl, rfl, by omega⟩⟩
    · rw [hover']
      exact hbelow
    · linarith
    · rw [RoundsTo, if_pos (by decide)]
      push_cast
      constructor <;> linarith

theorem isUnitOf_of_roundsTo (hv : IsNormal m q) (hpower : ¬ (m = 2 ^ 52 ∧ -1074 < q))
    (hround : RoundsTo y m q) : IsUnitOf q y := by
  have hunit := two_zpow_pos (q - 2)
  have hlead : (2 : ℚ) ^ (q + 52) = 2 ^ 54 * 2 ^ (q - 2) := two_zpow_eq 54 (by omega)
  have hover : (2 : ℚ) ^ (q + 53) = 2 ^ 55 * 2 ^ (q - 2) := two_zpow_eq 55 (by omega)
  obtain ⟨hlow, hhigh⟩ := hround.bounds
  refine ⟨hv.exponent_range.1, ?_, ?_⟩
  · have hm : (m : ℚ) + 1 ≤ 2 ^ 53 := by exact_mod_cast hv.lt_pow
    nlinarith
  · rcases eq_or_lt_of_le hv.exponent_range.1 with heq | hq
    · exact .inl heq.symm
    · right
      have hlead' := hv.leading_of_exponent hq
      have hm : (2 ^ 52 + 1 : ℚ) ≤ m := by
        have hne : m ≠ 2 ^ 52 := fun heq => hpower ⟨heq, hq⟩
        exact_mod_cast (by omega : 2 ^ 52 + 1 ≤ m)
      nlinarith

/-- What is in the neighbourhood of a double is rounded to it. -/
theorem rounds_of_contains (hm : 0 < m) (hv : IsNormal m q)
    (hy : (neighbourhood binary64 m q).Contains q y) :
    ∃ n t, IsUnitOf t y ∧ RoundsTo y n t ∧ Carries n t m q := by
  by_cases hpower : m = 2 ^ 52 ∧ -1074 < q
  · obtain ⟨rfl, hq⟩ := hpower
    exact rounds_of_contains_power hq hy
  · rw [contains_iff_roundsTo hm hpower] at hy
    exact ⟨m, q, isUnitOf_of_roundsTo hv hpower hy, hy, .inl ⟨hv.lt_pow.ne, rfl, rfl⟩⟩

theorem le_pow_of_roundsTo (hunit : IsUnitOf t y) (hround : RoundsTo y n t) : n ≤ 2 ^ 53 := by
  have hover : (2 : ℚ) ^ (t + 53) = 2 ^ 55 * 2 ^ (t - 2) := two_zpow_eq 55 (by omega)
  have hhigh := hunit.2.1
  rw [hover] at hhigh
  have hlt := lt_of_mul_lt_mul_right (hround.bounds.1.trans_lt hhigh) (two_zpow_pos (t - 2)).le
  have hlt' : 4 * n < 2 ^ 55 + 2 := by
    exact_mod_cast (by linarith : (4 * n : ℚ) < 2 ^ 55 + 2)
  omega

theorem leading_of_roundsTo (hunit : IsUnitOf t y) (hround : RoundsTo y n t) (ht : t ≠ -1074) :
    2 ^ 52 ≤ n := by
  have hlead : (2 : ℚ) ^ (t + 52) = 2 ^ 54 * 2 ^ (t - 2) := two_zpow_eq 54 (by omega)
  have hlow := hunit.2.2.resolve_left ht
  rw [hlead] at hlow
  have hle := le_of_mul_le_mul_right (hlow.trans hround.bounds.2) (two_zpow_pos (t - 2))
  have hle' : 2 ^ 54 ≤ 4 * n + 2 := by exact_mod_cast hle
  omega

theorem isNormal_of_roundsTo (hunit : IsUnitOf t y) (hround : RoundsTo y n t) (hn : 0 < n)
    (hless : n < 2 ^ 53) (hrange : (n.log2 : Int) + t < 1024) : IsNormal n t := by
  rcases Nat.lt_or_ge n (2 ^ 52) with hsmall | hlarge
  · left
    refine ⟨hsmall, by_contra fun ht => ?_⟩
    have hlead := leading_of_roundsTo hunit hround ht
    omega
  · have hlog : n.log2 = 52 := (Nat.log2_eq_iff (Nat.ne_of_gt hn)).mpr ⟨hlarge, hless⟩
    exact .inr ⟨hlarge, hless, hunit.1, by omega⟩

theorem contains_of_roundsTo (hunit : IsUnitOf t y) (hround : RoundsTo y n t) (hn : 0 < n) :
    (neighbourhood binary64 n t).Contains t y := by
  by_cases hpower : n = 2 ^ 52 ∧ -1074 < t
  · obtain ⟨rfl, ht⟩ := hpower
    have hlead : (2 : ℚ) ^ (t + 52) = 2 ^ 54 * 2 ^ (t - 2) := two_zpow_eq 54 (by omega)
    have hlow := hunit.2.2.resolve_left (by omega)
    have hhigh := hround.bounds.2
    have hpos := two_zpow_pos (t - 2)
    rw [contains_power_iff ht]
    push_cast at hhigh
    constructor <;> linarith
  · exact (contains_iff_roundsTo hn hpower).mpr hround

/-- What is rounded to a double is in its neighbourhood. -/
theorem contains_of_rounds (hunit : IsUnitOf t y) (hround : RoundsTo y n t) (hn : 0 < n)
    (hrange : (n.log2 : Int) + t < 1024) :
    ∃ m q, Carries n t m q ∧ IsNormal m q ∧ 0 < m ∧
      (neighbourhood binary64 m q).Contains q y := by
  rcases Nat.eq_or_lt_of_le (le_pow_of_roundsTo hunit hround) with rfl | hless
  · have hlog : (2 ^ 53 : Nat).log2 = 53 := Nat.log2_two_pow
    have hfrom := hunit.1
    obtain ⟨hlow, hhigh⟩ := hround.bounds
    have hdouble : (2 : ℚ) ^ (t + 1 - 2) = 2 ^ 1 * 2 ^ (t - 2) := two_zpow_eq 1 (by omega)
    have hpos := two_zpow_pos (t - 2)
    refine ⟨2 ^ 52, t + 1, .inr ⟨rfl, rfl, rfl⟩, .inr ⟨le_rfl, by decide, by omega, by omega⟩,
      by decide, ?_⟩
    rw [contains_power_iff (by omega), hdouble]
    push_cast at hlow hhigh
    constructor <;> linarith
  · exact ⟨n, t, .inl ⟨hless.ne, rfl, rfl⟩, isNormal_of_roundsTo hunit hround hn hless hrange, hn,
      contains_of_roundsTo hunit hround hn⟩

/-! ## Rounding and reading -/

variable {num den : Nat} {negative : Bool}

theorem Carries.magnitude_eq (h : Carries n t m q) : magnitude n t = magnitude m q := by
  rcases h with ⟨-, rfl, rfl⟩ | ⟨rfl, rfl, rfl⟩
  · rfl
  · exact magnitude_two_mul (2 ^ 52) t

theorem Carries.decode_encode (h : Carries n t m q) (hv : IsNormal m q) (negative : Bool) :
    decode (encode negative n t) = .finite negative m q := by
  rcases h with ⟨-, rfl, rfl⟩ | ⟨htop, hleast, rfl⟩
  · exact Binary.decode_encode hv
  · have hq := hv.exponent_range.1
    rw [encode_top htop hleast (by omega), Binary.decode_encode hv]

theorem Carries.in_range (h : Carries n t m q) (hm : 0 < m) (hv : IsNormal m q) :
    (n.log2 : Int) + t < 1024 := by
  have hlog : m.log2 < 53 := (Nat.log2_lt (Nat.ne_of_gt hm)).mpr hv.lt_pow
  have hq := hv.exponent_range.2
  rcases h with ⟨-, rfl, rfl⟩ | ⟨rfl, -, rfl⟩
  · omega
  · have htop : (2 ^ 53 : Nat).log2 = 53 := Nat.log2_two_pow
    omega

theorem round?_of_contains (hnum : 0 < num) (hden : 0 < den) (hm : 0 < m) (hv : IsNormal m q)
    (hy : (neighbourhood binary64 m q).Contains q (num / den)) :
    ∃ n t, binary64.round? num den = some (n, t) ∧ Carries n t m q := by
  obtain ⟨n, t, hunit, hround, hcarries⟩ := rounds_of_contains hm hv hy
  refine ⟨n, t, ?_, hcarries⟩
  rw [round?_eq hnum hden hunit hround, if_neg (not_le.mpr (hcarries.in_range hm hv))]

/-- A ratio is rounded once, as the number that it is rounded to is a double. -/
theorem decode_nearest (hround : binary64.round? num den = some (n, t)) (hcarries : Carries n t m q)
    (hm : 0 < m) (hv : IsNormal m q) (negative : Bool) :
    decode (nearest binary64 negative num den) = .finite negative m q := by
  obtain ⟨hdown, htwo⟩ := twoPower_eq t
  have hn : 0 < n := by
    rcases hcarries with ⟨-, rfl, -⟩ | ⟨rfl, -, -⟩
    · exact hm
    · decide
  have hvalue : ((n * (twoPower t).1 : Nat) / (twoPower t).2 : ℚ) = magnitude m q := by
    rw [← hcarries.magnitude_eq, magnitude]
    push_cast
    rw [htwo]
    have hne : ((twoPower t).2 : ℚ) ≠ 0 := Nat.cast_ne_zero.mpr (Nat.ne_of_gt hdown)
    field_simp
  have hup : 0 < n * (twoPower t).1 := Nat.mul_pos hn (Nat.pow_pos (by decide))
  have hself : (neighbourhood binary64 m q).Contains q (magnitude m q) := contains_self hm
  rw [← hvalue] at hself
  obtain ⟨n', t', hagain, hcarries'⟩ := round?_of_contains hup hdown hm hv hself
  rw [nearest, hround]
  dsimp only
  rw [hagain]
  exact hcarries'.decode_encode hv negative

theorem decode_infinity (negative : Bool) : decode (infinity negative) = .infinite negative := by
  cases negative <;> rfl

theorem nearest_of_none (hround : binary64.round? num den = none) (negative : Bool) :
    decode (nearest binary64 negative num den) = .infinite negative := by
  rw [nearest, hround]
  exact decode_infinity negative

theorem nearest_of_zero (hround : binary64.round? num den = some (0, t)) (negative : Bool) :
    decode (nearest binary64 negative num den) = .finite negative 0 (-1074) := by
  have hzero : binary64.round? (0 * (twoPower t).1) (twoPower t).2 = some (0, -1074) := by
    rw [Nat.zero_mul]
    rfl
  rw [nearest, hround]
  dsimp only
  rw [hzero]
  exact Binary.decode_encode (.inl ⟨by decide, rfl⟩)

/-- A positive ratio is rounded to a double exactly if it is in its neighbourhood. -/
theorem decode_nearest_iff (hnum : 0 < num) (hden : 0 < den) (hm : 0 < m) (hv : IsNormal m q)
    (negative : Bool) :
    decode (nearest binary64 negative num den) = .finite negative m q ↔
      (neighbourhood binary64 m q).Contains q (num / den) := by
  constructor
  · intro h
    obtain ⟨n, t, hunit, hround⟩ := exists_round? hnum hden
    have heq := round?_eq hnum hden hunit hround
    rcases le_or_gt 1024 ((n.log2 : Int) + t) with hover | hrange
    · rw [if_pos hover] at heq
      rw [nearest_of_none heq] at h
      contradiction
    · rw [if_neg (not_le.mpr hrange)] at heq
      rcases Nat.eq_zero_or_pos n with rfl | hn
      · rw [nearest_of_zero heq] at h
        cases h
        contradiction
      · obtain ⟨m', q', hcarries, hv', hm', hy⟩ := contains_of_rounds hunit hround hn hrange
        rw [decode_nearest heq hcarries hm' hv'] at h
        cases h
        exact hy
  · intro hy
    obtain ⟨n, t, hround, hcarries⟩ := round?_of_contains hnum hden hm hv hy
    exact decode_nearest hround hcarries hm hv negative

/-! ## Reading digits -/

/-- The double that digits are read as. -/
def Digits.read (negative : Bool) (d : Digits) : Float :=
  nearestDecimal negative (numeral d.coefficient) (d.point - digitCount d.coefficient)

variable {d : Digits}

theorem Digits.read_eq (h : 0 < d.coefficient) (negative : Bool) :
    d.read negative =
      if 400 < d.point then infinity negative
      else if d.point < -400 then encode negative 0 (-1074)
      else nearest binary64 negative
        (d.coefficient * (tenPower (d.point - digitCount d.coefficient)).1)
        (tenPower (d.point - digitCount d.coefficient)).2 := by
  have hcoefficient : ofDigits 10 (numeral d.coefficient) = d.coefficient :=
    Expr.ofDigits_numeral d.coefficient
  have hzeros : (numeral d.coefficient).dropWhile (· == '0') = numeral d.coefficient := by
    have hhead := head?_numeral_ne_zero h
    generalize numeral d.coefficient = ds at hhead
    cases ds with
    | nil => rfl
    | cons c ds => exact List.dropWhile_cons_of_neg fun hc => hhead (congrArg some (beq_iff_eq.mp hc))
  have hsize : ((numeral d.coefficient).length : Int) + (d.point - digitCount d.coefficient) =
      d.point :=
    add_sub_cancel _ _
  rw [read, nearestDecimal, hcoefficient, hzeros, hsize, if_neg (Nat.ne_of_gt h)]
  simp only [and_self, tenPower]

theorem contains_in_range (hm : 0 < m) (hv : IsNormal m q)
    (hy : (neighbourhood binary64 m q).Contains q y) :
    (10 : ℚ) ^ (-400 : Int) ≤ y ∧ y < 10 ^ (400 : Int) := by
  obtain ⟨hlow, hhigh⟩ := hy.bounds
  obtain ⟨below, hbelow, hlow', hhigh'⟩ := neighbourhood_ends binary64 hm q
  have hq := hv.exponent_range
  have hleast : (2 : ℚ) ^ (-1076 : Int) ≤ 2 ^ (q - 2) := zpow_le_zpow_right₀ one_le_two (by omega)
  have hgreatest : (2 : ℚ) ^ (q - 2) ≤ 2 ^ (969 : Int) := zpow_le_zpow_right₀ one_le_two (by omega)
  have hsmall : (10 : ℚ) ^ (-400 : Int) ≤ 2 ^ (-1076 : Int) := by
    have hpow : 2 ^ 1076 ≤ 10 ^ 400 := by omega
    rw [zpow_neg, zpow_neg]
    apply inv_anti₀ (by positivity)
    exact_mod_cast hpow
  have hlarge : (2 : ℚ) ^ 55 * 2 ^ (969 : Int) ≤ 10 ^ (400 : Int) := by
    have hpow : 2 ^ 55 * 2 ^ 969 ≤ 10 ^ 400 := by omega
    exact_mod_cast hpow
  have hunit := two_zpow_pos (q - 2)
  rw [hlow'] at hlow
  rw [hhigh'] at hhigh
  constructor
  · have hone : (1 : ℚ) ≤ 4 * m - below := by
      have hcast : 1 + below ≤ 4 * m := by omega
      have hcast' : (1 + below : ℚ) ≤ 4 * m := by exact_mod_cast hcast
      linarith
    calc (10 : ℚ) ^ (-400 : Int)
      _ ≤ 1 * 2 ^ (q - 2) := by linarith
      _ ≤ (4 * m - below) * 2 ^ (q - 2) := mul_le_mul_of_nonneg_right hone hunit.le
      _ ≤ y := hlow
  · have hlt := hv.lt_pow
    have hcast : (4 * m + 2 : ℚ) < 2 ^ 55 := by exact_mod_cast (by omega : 4 * m + 2 < 2 ^ 55)
    calc y
      _ ≤ (4 * m + 2) * 2 ^ (q - 2) := hhigh
      _ < 2 ^ 55 * 2 ^ (q - 2) := mul_lt_mul_of_pos_right hcast hunit
      _ ≤ 2 ^ 55 * 2 ^ (969 : Int) := mul_le_mul_of_nonneg_left hgreatest (by positivity)
      _ ≤ 10 ^ (400 : Int) := hlarge

/-- Digits are read as a double exactly if what they write is in its neighbourhood. -/
theorem Digits.decode_read_iff (hd : 0 < d.coefficient) (hm : 0 < m) (hv : IsNormal m q)
    (negative : Bool) :
    decode (d.read negative) = .finite negative m q ↔
      (neighbourhood binary64 m q).Contains q d.value := by
  obtain ⟨hlow, hhigh⟩ := Digits.value_bounds hd
  rw [Digits.read_eq hd]
  rcases lt_or_ge 400 d.point with hlarge | hsize
  · rw [if_pos hlarge, decode_infinity]
    refine iff_of_false nofun fun hy => ?_
    have hle : (10 : ℚ) ^ (400 : Int) ≤ 10 ^ (d.point - 1) :=
      zpow_le_zpow_right₀ (by norm_num) (by omega)
    have hrange := (contains_in_range hm hv hy).2
    linarith
  · rw [if_neg (not_lt.mpr hsize)]
    rcases lt_or_ge d.point (-400) with hsmall | hsize'
    · rw [if_pos hsmall, Binary.decode_encode (.inl ⟨by decide, rfl⟩)]
      refine iff_of_false ?_ fun hy => ?_
      · intro heq
        cases heq
        contradiction
      · have hle : (10 : ℚ) ^ d.point ≤ 10 ^ (-400 : Int) :=
          zpow_le_zpow_right₀ (by norm_num) hsmall.le
        have hrange := (contains_in_range hm hv hy).1
        linarith
    · obtain ⟨hdown, hten⟩ := tenPower_eq (d.point - digitCount d.coefficient)
      have hne : ((tenPower (d.point - digitCount d.coefficient)).2 : ℚ) ≠ 0 :=
        Nat.cast_ne_zero.mpr (Nat.ne_of_gt hdown)
      have hup : 0 < (tenPower (d.point - digitCount d.coefficient)).1 := Nat.pow_pos (by decide)
      have hvalue : ((d.coefficient * (tenPower (d.point - digitCount d.coefficient)).1 : Nat) /
          (tenPower (d.point - digitCount d.coefficient)).2 : ℚ) = d.value := by
        rw [Digits.value]
        push_cast
        rw [hten]
        field_simp
      rw [if_neg (not_lt.mpr hsize'), decode_nearest_iff (Nat.mul_pos hd hup) hdown hm hv, hvalue]

/-- Digits that are read as a double. No others that are have fewer digits, and none with as few are
nearer to it. -/
structure RoundTrips (negative : Bool) (m : Nat) (q : Int) (d : Digits) : Prop where
  pos : 0 < d.coefficient
  last : d.coefficient % 10 ≠ 0
  reads : decode (d.read negative) = .finite negative m q
  fewest : ∀ e : Digits, 0 < e.coefficient → decode (e.read negative) = .finite negative m q →
    digitCount d.coefficient ≤ digitCount e.coefficient
  nearest : ∀ e : Digits, 0 < e.coefficient → decode (e.read negative) = .finite negative m q →
    digitCount e.coefficient = digitCount d.coefficient →
    |d.value - magnitude m q| ≤ |e.value - magnitude m q|

theorem roundTrips_shortest (hm : 0 < m) (hv : IsNormal m q) (negative : Bool) :
    RoundTrips negative m q (shortest binary64 m q) := by
  have hshort := isShortest_shortest binary64 hm hv.lt_pow q
  refine ⟨hshort.pos, hshort.last, ?_, ?_, ?_⟩
  · exact (Digits.decode_read_iff hshort.pos hm hv negative).mpr hshort.contains
  · intro e he hread
    exact hshort.fewest e he ((Digits.decode_read_iff he hm hv negative).mp hread)
  · intro e he hread hsame
    exact hshort.nearest e he ((Digits.decode_read_iff he hm hv negative).mp hread) hsame

end Formulary.Decimal
