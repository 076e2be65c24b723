import Formulary.Proofs.Binary.Number

/-!
# Rounding to the nearest double

A positive number is rounded in the one unit in which it has 53 binary digits, or fewer if that is the
smallest unit, to the nearest whole number of units. Of two equally near ones the even one is taken.
-/

namespace Formulary.Binary

open Formulary.Decimal (magnitude two_zpow_pos twoPower_eq)

variable {num den m n : Nat} {q q' : Int} {y : ℚ}

/-! ## The nearest whole number -/

theorem divNearest_eq_iff (hden : 0 < den) :
    divNearest num den = m ↔
      if m % 2 = 0 then 2 * m * den ≤ 2 * num + den ∧ 2 * num ≤ (2 * m + 1) * den
      else 2 * m * den < 2 * num + den ∧ 2 * num < (2 * m + 1) * den := by
  have hdiv : den * (num / den) + num % den = num := Nat.div_add_mod num den
  have hrest : num % den < den := Nat.mod_lt num hden
  have heven : 2 * m * den = 2 * (den * m) := by ring
  have hodd : (2 * m + 1) * den = 2 * (den * m) + den := by ring
  have hplace : (m < num / den ∧ den * m + den ≤ den * (num / den)) ∨
      (m = num / den ∧ den * m = den * (num / den)) ∨
      (m = num / den + 1 ∧ den * m = den * (num / den) + den) ∨
      (num / den + 1 < m ∧ den * (num / den) + 2 * den ≤ den * m) := by
    rcases Nat.lt_trichotomy m (num / den) with hlt | rfl | hgt
    · exact .inl ⟨hlt, Nat.mul_le_mul_left den hlt⟩
    · exact .inr (.inl ⟨rfl, rfl⟩)
    · rcases Nat.eq_or_lt_of_le hgt with rfl | hmore
      · exact .inr (.inr (.inl ⟨rfl, Nat.mul_succ den _⟩))
      · have hfar : den * (num / den + 2) ≤ den * m := Nat.mul_le_mul_left den hmore
        rw [Nat.mul_add] at hfar
        exact .inr (.inr (.inr ⟨hmore, by omega⟩))
  rw [heven, hodd]
  unfold divNearest
  dsimp only
  -- next to the quotient the rest decides, and the last digit where it is half of the divisor
  rcases Nat.lt_trichotomy (2 * (num % den)) den with hless | htie | hmore
  · rw [if_pos hless]
    split <;> omega
  · rw [if_neg (by omega), if_neg (by omega)]
    split <;> omega
  · rw [if_neg (by omega), if_pos hmore]
    split <;> omega

/-! ## The unit -/

/-- The unit in which a number is rounded. -/
def IsUnitOf (q : Int) (y : ℚ) : Prop :=
  -1074 ≤ q ∧ y < 2 ^ (q + 53) ∧ (q = -1074 ∨ 2 ^ (q + 52) ≤ y)

theorem IsUnitOf.unique (h : IsUnitOf q y) (h' : IsUnitOf q' y) : q = q' := by
  have hle {a b : Int} (ha : IsUnitOf a y) (hb : IsUnitOf b y) : a ≤ b := by
    obtain ⟨hfrom, -, heq | hlow⟩ := ha
    · exact heq.le.trans hb.1
    · have hlt := (zpow_lt_zpow_iff_right₀ (one_lt_two (α := ℚ))).mp (hlow.trans_lt hb.2.1)
      omega
  exact le_antisymm (hle h h') (hle h' h)

theorem log2_bounds (hn : 0 < n) :
    (2 : ℚ) ^ (n.log2 : Int) ≤ n ∧ (n : ℚ) < 2 ^ (n.log2 + 1 : Int) := by
  obtain ⟨hlow, hhigh⟩ := (Nat.log2_eq_iff (Nat.ne_of_gt hn)).mp rfl
  constructor
  · rw [zpow_natCast]
    exact_mod_cast hlow
  · rw [← Nat.cast_succ, zpow_natCast]
    exact_mod_cast hhigh

theorem leadingExponent_bounds (hnum : 0 < num) (hden : 0 < den) :
    (2 : ℚ) ^ leadingExponent num den ≤ num / den ∧
      (num / den : ℚ) < 2 ^ (leadingExponent num den + 1) := by
  have hpos : (0 : ℚ) < den := Nat.cast_pos.mpr hden
  obtain ⟨hnumlow, hnumhigh⟩ := log2_bounds hnum
  obtain ⟨hdenlow, hdenhigh⟩ := log2_bounds hden
  obtain ⟨hdown, htwo⟩ := twoPower_eq ((num.log2 : Int) - den.log2)
  have hcompare : den * (twoPower ((num.log2 : Int) - den.log2)).1 ≤
        num * (twoPower ((num.log2 : Int) - den.log2)).2 ↔
      (2 : ℚ) ^ ((num.log2 : Int) - den.log2) ≤ num / den := by
    rw [← Nat.cast_le (α := ℚ), le_div_iff₀ hpos]
    push_cast
    rw [htwo, ← mul_assoc, mul_le_mul_iff_left₀ (Nat.cast_pos.mpr hdown), mul_comm]
  have hbelow : (num / den : ℚ) < 2 ^ ((num.log2 : Int) - den.log2 + 1) := by
    rw [div_lt_iff₀ hpos]
    calc (num : ℚ)
      _ < 2 ^ (num.log2 + 1 : Int) := hnumhigh
      _ = 2 ^ ((num.log2 : Int) - den.log2 + 1) * 2 ^ (den.log2 : Int) := by
        rw [← zpow_add₀ two_ne_zero]
        congr 1
        ring
      _ ≤ 2 ^ ((num.log2 : Int) - den.log2 + 1) * den :=
        mul_le_mul_of_nonneg_left hdenlow (two_zpow_pos _).le
  have habove : (2 : ℚ) ^ ((num.log2 : Int) - den.log2 - 1) ≤ num / den := by
    rw [le_div_iff₀ hpos]
    calc (2 : ℚ) ^ ((num.log2 : Int) - den.log2 - 1) * den
      _ ≤ 2 ^ ((num.log2 : Int) - den.log2 - 1) * 2 ^ (den.log2 + 1 : Int) :=
        mul_le_mul_of_nonneg_left hdenhigh.le (two_zpow_pos _).le
      _ = 2 ^ (num.log2 : Int) := by
        rw [← zpow_add₀ two_ne_zero]
        congr 1
        ring
      _ ≤ num := hnumlow
  rw [leadingExponent]
  dsimp only
  split
  · rename_i hle
    exact ⟨hcompare.mp hle, hbelow⟩
  · rename_i hgt
    rw [hcompare, not_le] at hgt
    rw [sub_add_cancel]
    exact ⟨habove, hgt⟩

theorem isUnitOf_unitExponent (hnum : 0 < num) (hden : 0 < den) :
    IsUnitOf (binary64.unitExponent num den) (num / den) := by
  obtain ⟨hlow, hhigh⟩ := leadingExponent_bounds hnum hden
  have hunit : binary64.unitExponent num den = max (-1074) (leadingExponent num den - 52) := by
    rw [Format.unitExponent]
    simp only [binary64]
    omega
  rw [hunit]
  refine ⟨le_max_left _ _, hhigh.trans_le ?_, ?_⟩
  · exact zpow_le_zpow_right₀ one_le_two (by omega)
  · rcases le_total (leadingExponent num den - 52) (-1074) with hsmall | hlarge
    · exact .inl (max_eq_left hsmall)
    · right
      rw [max_eq_right hlarge, sub_add_cancel]
      exact hlow

/-! ## Whole numbers of units -/

/-- The number is nearest to so many units. -/
def RoundsTo (y : ℚ) (m : Nat) (q : Int) : Prop :=
  if m % 2 = 0 then (4 * m - 2) * 2 ^ (q - 2) ≤ y ∧ y ≤ (4 * m + 2) * 2 ^ (q - 2)
  else (4 * m - 2) * 2 ^ (q - 2) < y ∧ y < (4 * m + 2) * 2 ^ (q - 2)

theorem RoundsTo.bounds (h : RoundsTo y m q) :
    (4 * m - 2) * 2 ^ (q - 2) ≤ y ∧ y ≤ (4 * m + 2) * 2 ^ (q - 2) := by
  unfold RoundsTo at h
  split at h
  · exact h
  · exact ⟨h.1.le, h.2.le⟩

theorem order_of_sub_eq {a b : Nat} {c d scale : ℚ} (hscale : 0 < scale)
    (h : (a - b : ℚ) = (c - d) * scale) : (a ≤ b ↔ c ≤ d) ∧ (a < b ↔ c < d) := by
  have hle : (a : ℚ) - b ≤ 0 ↔ c - d ≤ 0 := by
    rw [h]
    exact ⟨fun hc => nonpos_of_mul_nonpos_left hc hscale,
      fun hc => mul_nonpos_of_nonpos_of_nonneg hc hscale.le⟩
  have hlt : (a : ℚ) - b < 0 ↔ c - d < 0 := by
    rw [h]
    exact ⟨fun hc => neg_of_mul_neg_left hc hscale.le, fun hc => mul_neg_of_neg_of_pos hc hscale⟩
  rw [sub_nonpos, sub_nonpos, Nat.cast_le] at hle
  rw [sub_neg, sub_neg, Nat.cast_lt] at hlt
  exact ⟨hle, hlt⟩

/-- A quotient is nearest to a whole number exactly if what it is a multiple of is nearest to so many
units. -/
theorem roundsTo_iff {scale : ℚ} (hscale : 0 < scale) (hnum : (num : ℚ) = y * scale)
    (hden : (den : ℚ) = 2 ^ q * scale) : divNearest num den = m ↔ RoundsTo y m q := by
  have hunit : (2 : ℚ) ^ q = 4 * 2 ^ (q - 2) := by
    rw [zpow_sub₀ two_ne_zero]
    norm_num
    ring
  have hpos : 0 < den := by
    rw [← Nat.cast_pos (α := ℚ), hden]
    exact mul_pos (two_zpow_pos q) hscale
  have hscale' : 0 < 2 * scale := by linarith
  have hlow : ((2 * m * den : Nat) - (2 * num + den : Nat) : ℚ) =
      ((4 * m - 2) * 2 ^ (q - 2) - y) * (2 * scale) := by
    push_cast
    rw [hnum, hden, hunit]
    ring
  have hhigh : ((2 * num : Nat) - ((2 * m + 1) * den : Nat) : ℚ) =
      (y - (4 * m + 2) * 2 ^ (q - 2)) * (2 * scale) := by
    push_cast
    rw [hnum, hden, hunit]
    ring
  have hlow' := order_of_sub_eq hscale' hlow
  have hhigh' := order_of_sub_eq hscale' hhigh
  rw [divNearest_eq_iff hpos, RoundsTo]
  split
  · exact and_congr hlow'.1 hhigh'.1
  · exact and_congr hlow'.2 hhigh'.2

theorem divNearest_twoPower_eq_iff (hden : 0 < den) (q : Int) :
    divNearest (num * (twoPower q).2) (den * (twoPower q).1) = m ↔ RoundsTo (num / den) m q := by
  obtain ⟨hdown, htwo⟩ := twoPower_eq q
  have hpos : (0 : ℚ) < den := Nat.cast_pos.mpr hden
  have hscale : (0 : ℚ) < den * (twoPower q).2 := by positivity
  apply roundsTo_iff hscale
  · push_cast
    field_simp
  · push_cast
    rw [htwo]
    ring

theorem round?_eq (hnum : 0 < num) (hden : 0 < den) (hunit : IsUnitOf q (num / den))
    (hround : RoundsTo (num / den) m q) :
    binary64.round? num den = if 1024 ≤ (m.log2 : Int) + q then none else some (m, q) := by
  obtain rfl := (isUnitOf_unitExponent hnum hden).unique hunit
  rw [← divNearest_twoPower_eq_iff hden] at hround
  rw [Format.round?, if_neg (Nat.ne_of_gt hnum)]
  dsimp only
  rw [hround]
  rfl

theorem exists_round? (hnum : 0 < num) (hden : 0 < den) :
    ∃ m q, IsUnitOf q (num / den) ∧ RoundsTo (num / den) m q := by
  exact ⟨_, binary64.unitExponent num den, isUnitOf_unitExponent hnum hden,
    (divNearest_twoPower_eq_iff hden _).mp rfl⟩

end Formulary.Binary
