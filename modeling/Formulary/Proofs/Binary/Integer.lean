import Formulary.Proofs.Binary.Parts

/-!
# Integers as doubles

A positive integer is rounded to a significand of 53 digits. It has a double unless its magnitude is at
least half a unit below the power of two that is out of range, and the double lies on the same side of
zero.
-/

namespace Formulary.Binary

variable {n : Nat}

theorem leadingExponent_one (h : 0 < n) : leadingExponent n 1 = n.log2 := by
  have hle : 2 ^ n.log2 ≤ n := Nat.log2_self_le (Nat.ne_of_gt h)
  have hone : (1 : Nat).log2 = 0 := by decide
  rw [leadingExponent, hone]
  simp [twoPower, hle]

theorem unitExponent_one (h : 0 < n) : binary64.unitExponent n 1 = (n.log2 : Int) - 52 := by
  rw [Format.unitExponent, leadingExponent_one h]
  simp only [binary64]
  omega

/-- The significand of the double next to a positive integer. -/
def significand (n : Nat) : Nat :=
  if 52 ≤ n.log2 then divNearest n (2 ^ (n.log2 - 52)) else n * 2 ^ (52 - n.log2)

theorem divNearest_twoPower (n : Nat) :
    divNearest (n * (twoPower (n.log2 - 52)).2) (1 * (twoPower (n.log2 - 52)).1) =
      significand n := by
  rw [significand, Nat.one_mul]
  split
  · have h1 : ((n.log2 : Int) - 52).toNat = n.log2 - 52 := by omega
    have h2 : (-((n.log2 : Int) - 52)).toNat = 0 := by omega
    simp only [twoPower, h1, h2, Nat.pow_eq, Nat.pow_zero, Nat.mul_one]
  · have h1 : ((n.log2 : Int) - 52).toNat = 0 := by omega
    have h2 : (-((n.log2 : Int) - 52)).toNat = 52 - n.log2 := by omega
    simp only [twoPower, h1, h2, Nat.pow_eq, Nat.pow_zero]
    simpa using divNearest_mul (n * 2 ^ (52 - n.log2)) Nat.one_pos

theorem round?_one (h : 0 < n) :
    binary64.round? n 1 =
      if 1024 ≤ ((significand n).log2 : Int) + (n.log2 - 52) then none
      else some (significand n, (n.log2 : Int) - 52) := by
  simp only [Format.round?, if_neg (Nat.ne_of_gt h), unitExponent_one h, divNearest_twoPower]
  rfl

theorem significand_bounds (h : 0 < n) : 2 ^ 52 ≤ significand n ∧ significand n ≤ 2 ^ 53 := by
  have hlow : 2 ^ n.log2 ≤ n := Nat.log2_self_le (Nat.ne_of_gt h)
  have hhigh : n < 2 ^ (n.log2 + 1) := Nat.lt_log2_self
  rw [significand]
  split
  · rename_i hL
    obtain ⟨k, hk⟩ := Nat.exists_eq_add_of_le hL
    rw [hk] at hlow hhigh ⊢
    have hpos : 0 < 2 ^ k := Nat.two_pow_pos k
    rw [Nat.add_sub_cancel_left]
    have h1 : 2 ^ 52 ≤ n / 2 ^ k := by
      rw [Nat.le_div_iff_mul_le hpos, ← Nat.pow_add]; exact hlow
    have h2 : n / 2 ^ k < 2 ^ 53 := by
      rw [Nat.div_lt_iff_lt_mul hpos, ← Nat.pow_add, show 53 + k = 52 + k + 1 by omega]; exact hhigh
    rcases divNearest_cases n (2 ^ k) with ⟨h, -⟩ | ⟨h, -⟩ <;> omega
  · rename_i hL
    have hpos : 0 < 2 ^ (52 - n.log2) := Nat.two_pow_pos _
    constructor
    · calc 2 ^ 52 = 2 ^ n.log2 * 2 ^ (52 - n.log2) := by rw [← Nat.pow_add]; congr 1; omega
        _ ≤ n * 2 ^ (52 - n.log2) := Nat.mul_le_mul_right _ hlow
    · calc n * 2 ^ (52 - n.log2)
        _ ≤ 2 ^ (n.log2 + 1) * 2 ^ (52 - n.log2) := Nat.mul_le_mul_right _ (Nat.le_of_lt hhigh)
        _ = 2 ^ 53 := by rw [← Nat.pow_add]; congr 1; omega

theorem log2_significand (h : 0 < n) :
    (significand n).log2 = if significand n = 2 ^ 53 then 53 else 52 := by
  obtain ⟨hlow, hhigh⟩ := significand_bounds h
  split
  · rename_i htop
    rw [htop, Nat.log2_two_pow]
  · rename_i htop
    rw [Nat.log2_eq_iff (by omega)]
    omega

theorem isNormal_significand {q : Int} (h : 0 < n) (hq : -1074 ≤ q)
    (hrange : ((significand n).log2 : Int) + q < 1024) :
    (significand n = 2 ^ 53 ∧ IsNormal (2 ^ 52) (q + 1)) ∨
      (significand n ≠ 2 ^ 53 ∧ IsNormal (significand n) q) := by
  obtain ⟨hlow, hhigh⟩ := significand_bounds h
  rw [log2_significand h] at hrange
  by_cases htop : significand n = 2 ^ 53
  · rw [if_pos htop] at hrange
    exact .inl ⟨htop, .inr ⟨by decide, by decide, by omega, by omega⟩⟩
  · rw [if_neg htop] at hrange
    exact .inr ⟨htop, .inr ⟨hlow, by omega, hq, by omega⟩⟩

/-! ## The range -/

/-- An even quotient is reached from below as soon as at most half of the divisor is missing. -/
theorem divNearest_eq_even_iff {half k : Nat} (hlt : n < (2 * k + 2) * (2 * half)) :
    divNearest n (2 * half) = 2 * k + 2 ↔ (2 * k + 2) * (2 * half) ≤ n + half := by
  constructor
  · intro h
    have hle := divNearest_le_two_mul n (2 * half)
    rw [h, Nat.mul_assoc] at hle
    omega
  · intro hle
    have hstep : (2 * k + 2) * (2 * half) = (2 * k + 1) * (2 * half) + 2 * half := Nat.succ_mul ..
    have hquotient : n / (2 * half) = 2 * k + 1 := by
      apply Nat.div_eq_of_lt_le
      · omega
      · exact hlt
    have hrest : (2 * half) * (n / (2 * half)) + n % (2 * half) = n := Nat.div_add_mod n (2 * half)
    rw [hquotient, Nat.mul_comm (2 * half)] at hrest
    -- the quotient below is odd, so that a tie goes up as well
    unfold divNearest
    dsimp only
    rw [hquotient]
    split
    · omega
    · split <;> omega

/-- What is half a unit of the last place below `2 ^ (54 + k)`. -/
def halfBelow (k : Nat) : Nat := (2 ^ 54 - 1) * 2 ^ k

theorem halfBelow_bounds (k : Nat) :
    0 < halfBelow k ∧ 2 ^ (53 + k) ≤ halfBelow k ∧ halfBelow k ≤ 2 ^ (54 + k) := by
  have hpos : 0 < 2 ^ k := Nat.two_pow_pos k
  rw [halfBelow, Nat.pow_add, Nat.pow_add]
  generalize 2 ^ k = half at hpos ⊢
  omega

theorem significand_eq_top_iff {k : Nat} (h : n.log2 = 53 + k) :
    significand n = 2 ^ 53 ↔ halfBelow k ≤ n := by
  have hhigh : n < 2 ^ (n.log2 + 1) := Nat.lt_log2_self
  rw [show n.log2 + 1 = 54 + k by omega, Nat.pow_add] at hhigh
  have hunit : 2 ^ (n.log2 - 52) = 2 * 2 ^ k := by
    rw [show n.log2 - 52 = k + 1 by omega, Nat.pow_succ']
  rw [significand, if_pos (by omega), hunit, halfBelow]
  generalize 2 ^ k = half at hhigh ⊢
  refine (divNearest_eq_even_iff (k := 2 ^ 52 - 1) ?_).trans ?_
  · omega
  · omega

theorem round?_one_eq_none_iff {k : Nat} (hk : 54 + k = 1024) :
    binary64.round? n 1 = none ↔ halfBelow k ≤ n := by
  obtain ⟨hpos, hfrom, hto⟩ := halfBelow_bounds k
  rcases Nat.eq_zero_or_pos n with rfl | h
  · simp only [Format.round?, if_pos, reduceCtorEq, false_iff]
    omega
  · have hlow : 2 ^ n.log2 ≤ n := Nat.log2_self_le (Nat.ne_of_gt h)
    have hhigh : n < 2 ^ (n.log2 + 1) := Nat.lt_log2_self
    rw [round?_one h, log2_significand h]
    -- only among the numbers of the greatest length in range does the rounding decide
    rcases Nat.lt_trichotomy n.log2 (53 + k) with hlt | heq | hgt
    · have hbelow : 2 ^ (n.log2 + 1) ≤ 2 ^ (53 + k) := Nat.pow_le_pow_right (by decide) hlt
      rw [if_neg (by split <;> omega)]
      simp only [reduceCtorEq, false_iff]
      omega
    · rw [← significand_eq_top_iff heq, show n.log2 = 1023 by omega]
      by_cases htop : significand n = 2 ^ 53
      · rw [if_pos htop, if_pos (by decide)]
        exact iff_of_true rfl htop
      · rw [if_neg htop, if_neg (by decide)]
        exact iff_of_false nofun htop
    · have habove : 2 ^ (54 + k) ≤ 2 ^ n.log2 := Nat.pow_le_pow_right (by decide) (by omega)
      rw [if_pos (by split <;> omega)]
      simp only [true_iff]
      omega

/-- The least magnitude that is too large to be rounded to a double: half a unit below the power of
two that is out of range. -/
def overflowLimit : Nat := halfBelow 970

theorem ofInt?_eq_none_iff (n : Int) : ofInt? n = none ↔ overflowLimit ≤ n.natAbs := by
  have hround : ofInt? n = none ↔ binary64.round? n.natAbs 1 = none := by
    rw [ofInt?]
    cases binary64.round? n.natAbs 1 <;> simp
  exact hround.trans (round?_one_eq_none_iff rfl)

/-! ## The side of zero -/

/-- The side of zero on which an integer lies. -/
def sideOf (n : Int) : Side := if n = 0 then .zero false else .nonzero (n < 0)

/-- A significand that was rounded up to the next power of two counts as one in the next unit. -/
theorem encode_top {negative : Bool} {top least : Nat} {q : Int} (htop : top = 2 ^ 53)
    (hleast : least = 2 ^ 52) (hq : -1075 ≤ q) :
    encode negative top q = encode negative least (q + 1) := by
  have hfield : (q + 1076).toNat = (q + 1 + 1075).toNat := by omega
  have htop' : top = Nat.pow 2 53 := htop
  have hbeyond : ¬ top < Nat.pow 2 52 := by rw [Nat.pow_eq]; omega
  have hsmall : ¬ least < Nat.pow 2 52 := by rw [Nat.pow_eq]; omega
  have hne : least ≠ Nat.pow 2 53 := by rw [Nat.pow_eq]; omega
  have hrest : least - Nat.pow 2 52 = 0 := by rw [Nat.pow_eq]; omega
  rw [encode, encode, if_neg hbeyond, if_pos htop', if_neg hsmall, if_neg hne, hfield, hrest,
    Nat.add_zero]

theorem side_finite {negative : Bool} {m : Nat} {q : Int} (h : 0 < m) :
    (Decoded.finite negative m q).side = .nonzero negative := by
  cases m with
  | zero => exact absurd h (Nat.lt_irrefl 0)
  | succ => rfl

theorem side_encode_significand {negative : Bool} {q : Int} (h : 0 < n) (hq : -1074 ≤ q)
    (hrange : ((significand n).log2 : Int) + q < 1024) :
    (decode (encode negative (significand n) q)).side = .nonzero negative := by
  obtain ⟨hlow, -⟩ := significand_bounds h
  rcases isNormal_significand h hq hrange with ⟨htop, hnormal⟩ | ⟨-, hnormal⟩
  · rw [encode_top htop rfl (by omega), decode_encode hnormal, side_finite (by decide)]
  · rw [decode_encode hnormal, side_finite (Nat.lt_of_lt_of_le (by decide) hlow)]

theorem side_ofInt? {n : Int} {x : Float} (h : ofInt? n = some x) :
    (decode x).side = sideOf n := by
  by_cases hn : n = 0
  · subst hn
    have hzero : ofInt? 0 = some 0 := by decide +kernel
    rw [hzero] at h
    cases h
    rw [decode_zero]
    rfl
  · have hpos : 0 < n.natAbs := Int.natAbs_pos.mpr hn
    rw [ofInt?, round?_one hpos] at h
    split at h
    · contradiction
    · rename_i m q hround
      split at hround
      · contradiction
      · rename_i hrange
        cases hround
        cases h
        rw [side_encode_significand hpos (by omega) (by omega), sideOf, if_neg hn]

end Formulary.Binary
