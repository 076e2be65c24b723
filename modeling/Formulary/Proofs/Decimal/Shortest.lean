import Formulary.Proofs.Decimal.Grid

/-!
# The shortest decimal

The search over finer and finer grids ends at the latest with seventeen digits. What it finds is in the
neighbourhood of the number, no decimal there has fewer digits, and none with as few is nearer.
-/

namespace Formulary.Decimal

open Formulary.Binary (Format)

variable {f : Format} {m : Nat} {q : Int}

theorem magnitude_mid (f : Format) (m : Nat) (q : Int) :
    magnitude (neighbourhood f m q).mid (q - 2) = magnitude m q := by
  have hunit : (2 : ℚ) ^ q = 4 * 2 ^ (q - 2) := by
    rw [zpow_sub₀ (by norm_num)]
    norm_num
    ring
  rw [neighbourhood, magnitude, magnitude, hunit]
  push_cast
  ring

/-- The ends of the interval of a number, in quarters of its unit. -/
theorem neighbourhood_ends (f : Format) (hm : 0 < m) (q : Int) :
    ∃ below : Nat,
      ((below = 2 ∧ ¬ (m = 2 ^ (f.precision - 1) ∧ f.minExponent < q)) ∨
        (below = 1 ∧ m = 2 ^ (f.precision - 1) ∧ f.minExponent < q)) ∧
      magnitude (neighbourhood f m q).low (q - 2) = (4 * m - below) * 2 ^ (q - 2) ∧
      magnitude (neighbourhood f m q).high (q - 2) = (4 * m + 2) * 2 ^ (q - 2) := by
  obtain ⟨below, hlow, hhigh, hbelow⟩ : ∃ below : Nat, (neighbourhood f m q).low + below = 4 * m ∧
      (neighbourhood f m q).high = 4 * m + 2 ∧
      ((below = 2 ∧ ¬ (m = 2 ^ (f.precision - 1) ∧ f.minExponent < q)) ∨
        (below = 1 ∧ m = 2 ^ (f.precision - 1) ∧ f.minExponent < q)) := by
    rw [neighbourhood]
    dsimp only
    split
    · rename_i hpower
      exact ⟨1, by omega, rfl, .inr ⟨rfl, hpower⟩⟩
    · rename_i hpower
      exact ⟨2, by omega, rfl, .inl ⟨rfl, hpower⟩⟩
  refine ⟨below, hbelow, ?_, ?_⟩
  · have hcast : ((neighbourhood f m q).low : ℚ) + below = 4 * m := by exact_mod_cast hlow
    rw [magnitude, ← hcast, add_sub_cancel_right]
  · rw [magnitude, hhigh]
    push_cast
    rfl

theorem magnitude_quarters (m : Nat) (q : Int) : magnitude m q = 4 * m * 2 ^ (q - 2) := by
  rw [← magnitude_mid Binary.binary64, magnitude, neighbourhood]
  push_cast
  rfl

theorem ends_around (f : Format) (hm : 0 < m) (q : Int) :
    magnitude (neighbourhood f m q).low (q - 2) < magnitude m q ∧
      magnitude m q < magnitude (neighbourhood f m q).high (q - 2) := by
  obtain ⟨below, hbelow, hlow, hhigh⟩ := neighbourhood_ends f hm q
  have hunit := two_zpow_pos (q - 2)
  have hpos : (0 : ℚ) < below := by
    rw [Nat.cast_pos]
    omega
  rw [hlow, hhigh, magnitude_quarters]
  constructor <;> nlinarith

theorem contains_self (hm : 0 < m) : (neighbourhood f m q).Contains q (magnitude m q) :=
  Neighbourhood.contains_of_between (ends_around f hm q).1 (ends_around f hm q).2

/-! ## Enough digits -/

theorem pow_point_sub (m : Nat) (q : Int) (k : Nat) :
    (10 : ℚ) ^ pointOf m q = 10 ^ k * 10 ^ (pointOf m q - k) := by
  rw [← zpow_natCast, ← zpow_add₀ (by norm_num)]
  congr 1
  ring

theorem pow_point_pred (m : Nat) (q : Int) {k : Nat} (hk : 0 < k) :
    (10 : ℚ) ^ (pointOf m q - 1) = 10 ^ (k - 1) * 10 ^ (pointOf m q - k) := by
  rw [← zpow_natCast, ← zpow_add₀ (by norm_num)]
  congr 1
  omega

/-- A grid of seventeen digits is finer than the neighbourhood of a number of 53 binary digits. -/
theorem grid_seventeen_lt (f : Format) (hm : 0 < m) (hbits : m < 2 ^ 53) (q : Int) :
    (10 : ℚ) ^ (pointOf m q - (17 : Nat)) <
      magnitude (neighbourhood f m q).high (q - 2) - magnitude (neighbourhood f m q).low (q - 2) := by
  obtain ⟨below, hbelow, hlow, hhigh⟩ := neighbourhood_ends f hm q
  have hunit := two_zpow_pos (q - 2)
  have hpoint : 10 ^ 16 * (10 : ℚ) ^ (pointOf m q - (17 : Nat)) ≤ 4 * m * 2 ^ (q - 2) := by
    rw [← magnitude_quarters, ← pow_point_pred m q (k := 17) (by decide)]
    exact (pointOf_bounds hm q).1
  have hsmall : 4 * m < (2 + below) * 10 ^ 16 := by
    rcases hbelow with ⟨rfl, -⟩ | ⟨rfl, hpower, -⟩
    · omega
    · rw [hpower, Nat.pow_lt_pow_iff_right (by decide)] at hbits
      have hle : 2 ^ (f.precision - 1) ≤ 2 ^ 52 := Nat.pow_le_pow_right (by decide) (by omega)
      omega
  have hsmall' : (4 * m : ℚ) < (2 + below) * 10 ^ 16 := by exact_mod_cast hsmall
  have hwide : 4 * m * (2 : ℚ) ^ (q - 2) < (2 + below) * 10 ^ 16 * 2 ^ (q - 2) :=
    mul_lt_mul_of_pos_right hsmall' hunit
  rw [hlow, hhigh]
  linarith

theorem exists_seventeen (f : Format) (hm : 0 < m) (hbits : m < 2 ^ 53) (q : Int) :
    ∃ y : Nat, (neighbourhood f m q).Contains q (y * 10 ^ (pointOf m q - (17 : Nat))) := by
  have hfine := grid_seventeen_lt f hm hbits q
  obtain ⟨hlow, hhigh⟩ := ends_around f hm q
  obtain ⟨hsteps, hsteps'⟩ := stepsTo_bounds (neighbourhood f m q) q (pointOf m q - (17 : Nat))
  rw [magnitude_mid] at hsteps hsteps'
  generalize stepsTo (neighbourhood f m q) q (pointOf m q - (17 : Nat)) = c at hsteps hsteps'
  rcases lt_or_ge (magnitude (neighbourhood f m q).low (q - 2))
    (c * 10 ^ (pointOf m q - (17 : Nat))) with hin | hout
  · exact ⟨c, Neighbourhood.contains_of_between hin (by linarith)⟩
  · refine ⟨c + 1, Neighbourhood.contains_of_between (by linarith) ?_⟩
    rw [Nat.cast_succ, add_one_mul]
    linarith

/-! ## The search -/

theorem searchGrid_succ (h : Neighbourhood) (q point : Int) (fuel digits : Nat) :
    searchGrid h q point (fuel + 1) digits =
      match gridAt h q (point - digits) with
      | some c => (c, point - digits)
      | none => searchGrid h q point fuel (digits + 1) := rfl

/-- The search ends with the first grid that has a candidate. -/
theorem searchGrid_eq {h : Neighbourhood} {point : Int} {last : Nat} (fuel digits : Nat)
    (hfrom : digits ≤ last) (hto : last < digits + fuel)
    (hlast : ∃ c, gridAt h q (point - last) = some c) :
    ∃ k c : Nat, digits ≤ k ∧ k ≤ last ∧ gridAt h q (point - k) = some c ∧
      searchGrid h q point fuel digits = (c, point - k) ∧
      ∀ j : Nat, digits ≤ j → j < k → gridAt h q (point - j) = none := by
  induction fuel generalizing digits with
  | zero => omega
  | succ fuel ih =>
    rw [searchGrid_succ]
    cases hgrid : gridAt h q (point - digits) with
    | some c => exact ⟨digits, c, Nat.le_refl _, hfrom, hgrid, rfl, by omega⟩
    | none =>
      have hne : digits ≠ last := by
        rintro rfl
        obtain ⟨c, hc⟩ := hlast
        rw [hgrid] at hc
        contradiction
      obtain ⟨k, c, hk, hk', hc, heq, hbefore⟩ := ih (digits + 1) (by omega) (by omega)
      refine ⟨k, c, by omega, hk', hc, heq, ?_⟩
      intro j hj hjk
      rcases Nat.eq_or_lt_of_le hj with rfl | hlt
      · exact hgrid
      · exact hbefore j hlt hjk

/-- What the search finds, before zeros at its end are dropped. -/
theorem exists_shortest (f : Format) (hm : 0 < m) (hbits : m < 2 ^ 53) (q : Int) :
    ∃ k c : Nat, 0 < k ∧ k ≤ 17 ∧ 10 ^ (k - 1) ≤ c ∧ c ≤ 10 ^ k ∧
      gridAt (neighbourhood f m q) q (pointOf m q - k) = some c ∧
      shortest f m q = ⟨stripZeros 20 c, digitCount c + (pointOf m q - k)⟩ ∧
      ∀ j : Nat, 0 < j → j < k → gridAt (neighbourhood f m q) q (pointOf m q - j) = none := by
  have hmid : (neighbourhood f m q).Contains q (magnitude (neighbourhood f m q).mid (q - 2)) := by
    rw [magnitude_mid]
    exact contains_self hm
  obtain ⟨y, hy⟩ := exists_seventeen f hm hbits q
  obtain ⟨k, c, hk, hk', hc, hsearch, hbefore⟩ :=
    searchGrid_eq 17 1 (by decide) (by decide) (exists_gridAt hmid hy)
  obtain ⟨-, hfrom, hto⟩ := gridAt_bounds hc
  obtain ⟨hlow, hhigh⟩ := pointOf_bounds hm q
  obtain ⟨hbelow, habove⟩ := stepsTo_bounds (neighbourhood f m q) q (pointOf m q - k)
  have hstep := ten_zpow_pos (pointOf m q - k)
  rw [magnitude_mid] at hbelow habove
  refine ⟨k, c, hk, hk', ?_, ?_, hc, ?_, hbefore⟩
  · rw [pow_point_pred m q hk] at hlow
    have hlt := lt_of_mul_lt_mul_right (hlow.trans_lt habove) hstep.le
    have hlt' : 10 ^ (k - 1) < stepsTo (neighbourhood f m q) q (pointOf m q - k) + 1 := by
      exact_mod_cast hlt
    omega
  · rw [pow_point_sub m q k] at hhigh
    have hlt := lt_of_mul_lt_mul_right (hbelow.trans_lt hhigh) hstep.le
    have hlt' : stepsTo (neighbourhood f m q) q (pointOf m q - k) < 10 ^ k := by
      exact_mod_cast hlt
    omega
  · rw [shortest, hsearch]

/-! ## What the shortest decimal is -/

/-- Digits whose decimal is in the neighbourhood of a number. None there has fewer of them, and none
with as few is nearer to the number. -/
structure IsShortest (f : Format) (m : Nat) (q : Int) (d : Digits) : Prop where
  pos : 0 < d.coefficient
  last : d.coefficient % 10 ≠ 0
  contains : (neighbourhood f m q).Contains q d.value
  fewest : ∀ e : Digits, 0 < e.coefficient → (neighbourhood f m q).Contains q e.value →
    digitCount d.coefficient ≤ digitCount e.coefficient
  nearest : ∀ e : Digits, 0 < e.coefficient → (neighbourhood f m q).Contains q e.value →
    digitCount e.coefficient = digitCount d.coefficient →
    |d.value - magnitude m q| ≤ |e.value - magnitude m q|

/-- A decimal in the neighbourhood has one on each grid of at least as many digits that is in the
neighbourhood too and no further from the number. -/
theorem exists_on_grid (hm : 0 < m) {e : Digits} (he : 0 < e.coefficient)
    (hin : (neighbourhood f m q).Contains q e.value) {k : Nat}
    (hk : digitCount e.coefficient ≤ k) :
    ∃ y : Nat, (neighbourhood f m q).Contains q (y * 10 ^ (pointOf m q - k)) ∧
      |(y : ℚ) * 10 ^ (pointOf m q - k) - magnitude m q| ≤ |e.value - magnitude m q| := by
  obtain ⟨hlow, hhigh⟩ := pointOf_bounds hm q
  obtain ⟨helow, hehigh⟩ := Digits.value_bounds he
  have hpos := digitCount_pos e.coefficient
  have hself : (neighbourhood f m q).Contains q (magnitude m q) := contains_self hm
  -- a decimal of another size is beyond a power of ten, which is on every grid
  rcases lt_trichotomy e.point (pointOf m q) with hbefore | hsame | hbehind
  · have hle : (10 : ℚ) ^ e.point ≤ 10 ^ (pointOf m q - 1) :=
      zpow_le_zpow_right₀ (by norm_num) (by omega)
    have hvalue : e.value ≤ 10 ^ (pointOf m q - 1) := (hehigh.trans_le hle).le
    refine ⟨10 ^ (k - 1), ?_, ?_⟩
    · push_cast
      rw [← pow_point_pred m q (by omega)]
      exact hin.between hself hvalue hlow
    · push_cast
      rw [← pow_point_pred m q (by omega), abs_of_nonpos (by linarith),
        abs_of_nonpos (by linarith)]
      linarith
  · have hvalue : e.value =
        ((e.coefficient * 10 ^ (k - digitCount e.coefficient) : Nat) : ℚ) *
          10 ^ (pointOf m q - k) := by
      rw [Digits.value, hsame]
      push_cast
      rw [mul_assoc, ← zpow_natCast, ← zpow_add₀ (by norm_num)]
      congr 2
      omega
    refine ⟨e.coefficient * 10 ^ (k - digitCount e.coefficient), ?_, ?_⟩
    · rw [← hvalue]
      exact hin
    · rw [← hvalue]
  · have hle : (10 : ℚ) ^ pointOf m q ≤ 10 ^ (e.point - 1) :=
      zpow_le_zpow_right₀ (by norm_num) (by omega)
    have hvalue : 10 ^ pointOf m q ≤ e.value := hle.trans helow
    refine ⟨10 ^ k, ?_, ?_⟩
    · push_cast
      rw [← pow_point_sub]
      exact hself.between hin hhigh.le hvalue
    · push_cast
      rw [← pow_point_sub, abs_of_nonneg (by linarith), abs_of_nonneg (by linarith)]
      linarith

theorem digitCount_stripZeros_le (fuel : Nat) {n k : Nat} (hk : 0 < k) (hlow : 10 ^ (k - 1) ≤ n)
    (hhigh : n ≤ 10 ^ k) (hfuel : n < 10 ^ fuel) : digitCount (stripZeros fuel n) ≤ k := by
  have hn : 0 < n := (Nat.pow_pos (by decide)).trans_le hlow
  obtain ⟨j, hj, hpos⟩ := stripZeros_mul_pow fuel hn
  rw [digitCount_le_iff hk]
  rcases Nat.eq_zero_or_pos j with rfl | hpos'
  · have hmod := stripZeros_mod_ten hn hfuel
    rw [Nat.pow_zero, Nat.mul_one] at hj
    rw [← hj] at hmod ⊢
    apply Nat.lt_of_le_of_ne hhigh
    rintro rfl
    apply hmod
    exact Nat.mod_eq_zero_of_dvd (dvd_pow_self 10 (by omega))
  · have hten : 10 ^ 1 ≤ 10 ^ j := Nat.pow_le_pow_right (by decide) hpos'
    have hmul : stripZeros fuel n * 10 ^ 1 ≤ n := by
      conv_rhs => rw [hj]
      exact Nat.mul_le_mul_left _ hten
    omega

theorem isShortest_shortest (f : Format) (hm : 0 < m) (hbits : m < 2 ^ 53) (q : Int) :
    IsShortest f m q (shortest f m q) := by
  obtain ⟨k, c, hk, hk', hlow, hhigh, hc, hshortest, hbefore⟩ := exists_shortest f hm hbits q
  have hmid : (neighbourhood f m q).Contains q (magnitude (neighbourhood f m q).mid (q - 2)) := by
    rw [magnitude_mid]
    exact contains_self hm
  have hcpos : 0 < c := (Nat.pow_pos (by decide)).trans_le hlow
  have hfuel : c < 10 ^ 20 :=
    hhigh.trans_lt (Nat.pow_lt_pow_right (by decide) (by omega))
  have hvalue : (shortest f m q).value = c * 10 ^ (pointOf m q - k) := by
    rw [hshortest, Digits.value_stripZeros 20 hcpos]
  have hcount : digitCount (shortest f m q).coefficient ≤ k := by
    rw [hshortest]
    exact digitCount_stripZeros_le 20 hk hlow hhigh hfuel
  refine ⟨?_, ?_, ?_, ?_, ?_⟩
  · rw [hshortest]
    obtain ⟨j, -, hpos⟩ := stripZeros_mul_pow 20 hcpos
    exact hpos
  · rw [hshortest]
    exact stripZeros_mod_ten hcpos hfuel
  · rw [hvalue]
    exact (gridAt_bounds hc).1
  · intro e he hin
    apply hcount.trans
    apply Nat.le_of_not_lt
    intro hfewer
    obtain ⟨y, hy, -⟩ := exists_on_grid hm he hin (Nat.le_refl _)
    obtain ⟨x, hx⟩ := exists_gridAt hmid hy
    rw [hbefore _ (digitCount_pos _) hfewer] at hx
    contradiction
  · intro e he hin hsame
    obtain ⟨y, hy, hnear⟩ := exists_on_grid hm he hin (hsame.le.trans hcount)
    rw [hvalue]
    apply le_trans _ hnear
    have hnearest := gridAt_nearest hmid hc hy
    rw [magnitude_mid] at hnearest
    exact hnearest

end Formulary.Decimal
