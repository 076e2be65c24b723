import Formulary.Proofs.Decimal.Digits
import Mathlib.Algebra.Order.Floor.Semifield
import Mathlib.Data.Rat.Floor

/-!
# Decimals of a grid next to a number

On each grid of decimals the one next below a number and the one next above it are the only candidates
for its neighbourhood: if the neighbourhood holds any decimal of the grid, it holds one of these two,
and the nearer one is the nearest of all.
-/

namespace Formulary.Decimal

open Formulary.Binary (twoPower)

variable {h : Neighbourhood} {q t : Int} {x y : ℚ} {c n : Nat}

/-- The real is in the interval. -/
def Neighbourhood.Contains (h : Neighbourhood) (q : Int) (y : ℚ) : Prop :=
  if h.closed then magnitude h.low (q - 2) ≤ y ∧ y ≤ magnitude h.high (q - 2)
  else magnitude h.low (q - 2) < y ∧ y < magnitude h.high (q - 2)

theorem Neighbourhood.Contains.bounds (hy : h.Contains q y) :
    magnitude h.low (q - 2) ≤ y ∧ y ≤ magnitude h.high (q - 2) := by
  unfold Contains at hy
  split at hy
  · exact hy
  · exact ⟨hy.1.le, hy.2.le⟩

theorem Neighbourhood.contains_of_between (hlow : magnitude h.low (q - 2) < y)
    (hhigh : y < magnitude h.high (q - 2)) : h.Contains q y := by
  unfold Contains
  split
  · exact ⟨hlow.le, hhigh.le⟩
  · exact ⟨hlow, hhigh⟩

theorem Neighbourhood.Contains.between {a b : ℚ} (ha : h.Contains q a) (hb : h.Contains q b)
    (hay : a ≤ y) (hyb : y ≤ b) : h.Contains q y := by
  unfold Contains at *
  split at ha
  · rename_i hclosed
    rw [if_pos hclosed] at hb ⊢
    exact ⟨ha.1.trans hay, hyb.trans hb.2⟩
  · rename_i hopen
    rw [if_neg hopen] at hb ⊢
    exact ⟨ha.1.trans_le hay, hyb.trans_lt hb.2⟩

/-! ## The candidates of a grid -/

theorem pow_toNat_eq {b : Nat} (hb : 0 < b) (t : Int) :
    ((b ^ t.toNat : Nat) : ℚ) = b ^ t * (b ^ (-t).toNat : Nat) := by
  have hne : (b : ℚ) ≠ 0 := Nat.cast_ne_zero.mpr (Nat.ne_of_gt hb)
  push_cast
  rw [← zpow_natCast, ← zpow_natCast, ← zpow_add₀ hne]
  congr 1
  omega

theorem tenPower_eq (t : Int) :
    0 < (tenPower t).2 ∧ ((tenPower t).1 : ℚ) = 10 ^ t * (tenPower t).2 :=
  ⟨Nat.pow_pos (by decide), pow_toNat_eq (by decide) t⟩

theorem twoPower_eq (q : Int) :
    0 < (twoPower q).2 ∧ ((twoPower q).1 : ℚ) = 2 ^ q * (twoPower q).2 :=
  ⟨Nat.pow_pos (by decide), pow_toNat_eq (by decide) q⟩

/-- How many steps of the grid `10^t` a unit of the interval is, as a ratio. -/
def unitSteps (q t : Int) : Nat × Nat :=
  ((twoPower (q - 2)).1 * (tenPower t).2, (twoPower (q - 2)).2 * (tenPower t).1)

theorem unitSteps_eq (q t : Int) :
    ∃ scale : ℚ, 0 < scale ∧ ((unitSteps q t).1 : ℚ) = 2 ^ (q - 2) * scale ∧
      ((unitSteps q t).2 : ℚ) = 10 ^ t * scale := by
  obtain ⟨htwo, hunit⟩ := twoPower_eq (q - 2)
  obtain ⟨hten, hstep⟩ := tenPower_eq t
  refine ⟨(twoPower (q - 2)).2 * (tenPower t).2, by positivity, ?_, ?_⟩
  · rw [unitSteps]
    push_cast
    rw [hunit, mul_assoc]
  · rw [unitSteps]
    push_cast
    rw [hstep]
    ring

theorem unitSteps_le_iff (q t : Int) (a b : Nat) :
    (a * (unitSteps q t).1 ≤ b * (unitSteps q t).2 ↔ magnitude a (q - 2) ≤ b * 10 ^ t) ∧
      (b * (unitSteps q t).2 ≤ a * (unitSteps q t).1 ↔ b * 10 ^ t ≤ magnitude a (q - 2)) := by
  obtain ⟨scale, hscale, hunit, hstep⟩ := unitSteps_eq q t
  rw [← Nat.cast_le (α := ℚ), ← Nat.cast_le (α := ℚ)]
  push_cast
  rw [hunit, hstep, ← mul_assoc, ← mul_assoc, mul_le_mul_iff_left₀ hscale,
    mul_le_mul_iff_left₀ hscale]
  exact ⟨Iff.rfl, Iff.rfl⟩

theorem unitSteps_double_le_iff (q t : Int) (a b : Nat) :
    (2 * (a * (unitSteps q t).1) ≤ b * (unitSteps q t).2 ↔
        2 * magnitude a (q - 2) ≤ b * 10 ^ t) ∧
      (b * (unitSteps q t).2 ≤ 2 * (a * (unitSteps q t).1) ↔
        b * 10 ^ t ≤ 2 * magnitude a (q - 2)) := by
  have hdouble : magnitude (2 * a) (q - 2) = 2 * magnitude a (q - 2) := by
    rw [magnitude, magnitude, Nat.cast_mul, Nat.cast_ofNat, mul_assoc]
  rw [← Nat.mul_assoc, ← hdouble]
  exact unitSteps_le_iff q t (2 * a) b

theorem inside_iff (h : Neighbourhood) (q t : Int) (x : Nat) :
    (if h.closed then
        h.low * (unitSteps q t).1 ≤ x * (unitSteps q t).2 ∧
          x * (unitSteps q t).2 ≤ h.high * (unitSteps q t).1
      else
        h.low * (unitSteps q t).1 < x * (unitSteps q t).2 ∧
          x * (unitSteps q t).2 < h.high * (unitSteps q t).1) ↔ h.Contains q (x * 10 ^ t) := by
  have hlow := unitSteps_le_iff q t h.low x
  have hhigh := unitSteps_le_iff q t h.high x
  unfold Neighbourhood.Contains
  split
  · exact and_congr hlow.1 hhigh.2
  · exact and_congr (lt_iff_lt_of_le_iff_le hlow.2) (lt_iff_lt_of_le_iff_le hhigh.1)

/-- Steps of the grid up to the number. -/
def stepsTo (h : Neighbourhood) (q t : Int) : Nat := ⌊magnitude h.mid (q - 2) / 10 ^ t⌋₊

theorem div_unitSteps (h : Neighbourhood) (q t : Int) :
    h.mid * (unitSteps q t).1 / (unitSteps q t).2 = stepsTo h q t := by
  obtain ⟨scale, hscale, hunit, hstep⟩ := unitSteps_eq q t
  rw [← Nat.floor_div_eq_div (K := ℚ), stepsTo, magnitude]
  push_cast
  rw [hunit, hstep, ← mul_assoc, mul_div_mul_right _ _ hscale.ne']

theorem stepsTo_bounds (h : Neighbourhood) (q t : Int) :
    (stepsTo h q t : ℚ) * 10 ^ t ≤ magnitude h.mid (q - 2) ∧
      magnitude h.mid (q - 2) < ((stepsTo h q t + 1 : Nat) : ℚ) * 10 ^ t := by
  have hpos := ten_zpow_pos t
  have hmid : (0 : ℚ) ≤ magnitude h.mid (q - 2) :=
    mul_nonneg (Nat.cast_nonneg _) (two_zpow_pos _).le
  constructor
  · rw [← le_div_iff₀ hpos]
    exact Nat.floor_le (div_nonneg hmid hpos.le)
  · rw [← div_lt_iff₀ hpos, Nat.cast_succ]
    exact Nat.lt_floor_add_one _

/-- The candidate of the grid `10^t`. -/
def gridAt (h : Neighbourhood) (q t : Int) : Option Nat :=
  h.gridPoint? (unitSteps q t).1 (unitSteps q t).2

/-- The candidate of a grid, by which of the two neighbours of the number are in the interval. -/
theorem gridAt_cases (h : Neighbourhood) (q t : Int) :
    (gridAt h q t = none ∧ ¬ h.Contains q (stepsTo h q t * 10 ^ t) ∧
      ¬ h.Contains q ((stepsTo h q t + 1 : Nat) * 10 ^ t)) ∨
    (gridAt h q t = some (stepsTo h q t) ∧ h.Contains q (stepsTo h q t * 10 ^ t) ∧
      (h.Contains q ((stepsTo h q t + 1 : Nat) * 10 ^ t) →
        2 * magnitude h.mid (q - 2) ≤ (2 * stepsTo h q t + 1 : Nat) * 10 ^ t)) ∨
    (gridAt h q t = some (stepsTo h q t + 1) ∧ h.Contains q ((stepsTo h q t + 1 : Nat) * 10 ^ t) ∧
      (h.Contains q (stepsTo h q t * 10 ^ t) →
        (2 * stepsTo h q t + 1 : Nat) * 10 ^ t ≤ 2 * magnitude h.mid (q - 2))) := by
  have hinside := inside_iff h q t
  have hmiddle := unitSteps_double_le_iff q t h.mid
  rw [gridAt, Neighbourhood.gridPoint?, ← div_unitSteps]
  dsimp only
  generalize h.mid * (unitSteps q t).1 / (unitSteps q t).2 = c
  by_cases hc : h.Contains q (c * 10 ^ t)
  · by_cases hc' : h.Contains q ((c + 1 : Nat) * 10 ^ t)
    · rw [if_pos ⟨(hinside c).mpr hc, (hinside (c + 1)).mpr hc'⟩]
      right
      split
      · rename_i hlt
        exact .inl ⟨rfl, hc, fun _ => (hmiddle _).1.mp (Nat.le_of_lt hlt)⟩
      · rename_i hge
        have habove := (hmiddle _).2.mp (Nat.le_of_not_lt hge)
        split
        · exact .inr ⟨rfl, hc', fun _ => habove⟩
        · rename_i hle
          have hbelow := (hmiddle _).1.mp (Nat.le_of_not_lt hle)
          -- a tie, which goes to the even one
          rcases Nat.mod_two_eq_zero_or_one c with heven | hodd
          · rw [heven, Nat.add_zero]
            exact .inl ⟨rfl, hc, fun _ => hbelow⟩
          · rw [hodd]
            exact .inr ⟨rfl, hc', fun _ => habove⟩
    · rw [if_neg fun hand => hc' ((hinside _).mp hand.2), if_pos ((hinside c).mpr hc)]
      exact .inr (.inl ⟨rfl, hc, fun hother => absurd hother hc'⟩)
  · rw [if_neg fun hand => hc ((hinside c).mp hand.1), if_neg fun hin => hc ((hinside c).mp hin)]
    by_cases hc' : h.Contains q ((c + 1 : Nat) * 10 ^ t)
    · rw [if_pos ((hinside _).mpr hc')]
      exact .inr (.inr ⟨rfl, hc', fun hother => absurd hother hc⟩)
    · rw [if_neg fun hin => hc' ((hinside _).mp hin)]
      exact .inl ⟨rfl, hc, hc'⟩

/-! ## The nearest decimal of a grid -/

theorem grid_le {a b : Nat} (hab : a ≤ b) (t : Int) : (a : ℚ) * 10 ^ t ≤ b * 10 ^ t :=
  mul_le_mul_of_nonneg_right (Nat.cast_le.mpr hab) (ten_zpow_pos t).le

theorem contains_neighbour {y : Nat} (hmid : h.Contains q (magnitude h.mid (q - 2)))
    (hy : h.Contains q (y * 10 ^ t)) :
    (y ≤ stepsTo h q t → h.Contains q (stepsTo h q t * 10 ^ t)) ∧
      (stepsTo h q t < y → h.Contains q ((stepsTo h q t + 1 : Nat) * 10 ^ t)) := by
  obtain ⟨hbelow, habove⟩ := stepsTo_bounds h q t
  constructor
  · intro hle
    exact hy.between hmid (grid_le hle t) hbelow
  · intro hlt
    exact hmid.between hy habove.le (grid_le hlt t)

theorem exists_gridAt {y : Nat} (hmid : h.Contains q (magnitude h.mid (q - 2)))
    (hy : h.Contains q (y * 10 ^ t)) : ∃ x, gridAt h q t = some x := by
  rcases gridAt_cases h q t with ⟨-, hout, hout'⟩ | ⟨hsome, -⟩ | ⟨hsome, -⟩
  · exfalso
    obtain ⟨hbelow, habove⟩ := contains_neighbour hmid hy
    rcases Nat.lt_or_ge (stepsTo h q t) y with hlt | hge
    · exact hout' (habove hlt)
    · exact hout (hbelow hge)
  · exact ⟨_, hsome⟩
  · exact ⟨_, hsome⟩

theorem gridAt_bounds {x : Nat} (hx : gridAt h q t = some x) :
    h.Contains q (x * 10 ^ t) ∧ stepsTo h q t ≤ x ∧ x ≤ stepsTo h q t + 1 := by
  rcases gridAt_cases h q t with ⟨hnone, -⟩ | ⟨hsome, hin, -⟩ | ⟨hsome, hin, -⟩
  · rw [hnone] at hx
    contradiction
  · obtain rfl := Option.some.inj (hsome.symm.trans hx)
    exact ⟨hin, Nat.le_refl _, Nat.le_succ _⟩
  · obtain rfl := Option.some.inj (hsome.symm.trans hx)
    exact ⟨hin, Nat.le_succ _, Nat.le_refl _⟩

theorem gridAt_nearest {x y : Nat} (hmid : h.Contains q (magnitude h.mid (q - 2)))
    (hx : gridAt h q t = some x) (hy : h.Contains q (y * 10 ^ t)) :
    |(x : ℚ) * 10 ^ t - magnitude h.mid (q - 2)| ≤ |(y : ℚ) * 10 ^ t - magnitude h.mid (q - 2)| := by
  obtain ⟨hbelow, habove⟩ := stepsTo_bounds h q t
  obtain ⟨hin, hin'⟩ := contains_neighbour hmid hy
  rcases gridAt_cases h q t with ⟨hnone, -⟩ | ⟨hsome, -, hnear⟩ | ⟨hsome, -, hnear⟩
  · rw [hnone] at hx
    contradiction
  · obtain rfl := Option.some.inj (hsome.symm.trans hx)
    rw [abs_of_nonpos (by linarith)]
    rcases Nat.lt_or_ge (stepsTo h q t) y with hlt | hge
    · have hfar := grid_le hlt t
      have hhalf := hnear (hin' hlt)
      push_cast at habove hfar hhalf
      rw [abs_of_nonneg (by linarith)]
      linarith
    · have hfar := grid_le hge t
      rw [abs_of_nonpos (by linarith)]
      linarith
  · obtain rfl := Option.some.inj (hsome.symm.trans hx)
    rw [abs_of_nonneg (by linarith)]
    rcases Nat.lt_or_ge (stepsTo h q t) y with hlt | hge
    · have hfar := grid_le hlt t
      rw [abs_of_nonneg (by linarith)]
      linarith
    · have hfar := grid_le hge t
      have hhalf := hnear (hin hge)
      push_cast at habove hhalf ⊢
      rw [abs_of_nonpos (by linarith)]
      linarith

end Formulary.Decimal
