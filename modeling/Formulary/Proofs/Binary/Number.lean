import Formulary.Proofs.Binary.Integer
import Formulary.Proofs.Decimal.Grid

/-!
# The numbers that doubles are

A finite double is the number `± m · 2^q`. If that is an integer other than zero, the integer is rounded
to the same double. The rounding of a larger integer is not below it.
-/

namespace Formulary.Binary

open Formulary.Decimal (magnitude two_zpow_pos twoPower_eq)

variable {x : Float} {negative : Bool} {m n : Nat} {q : Int}

theorem isNormal_of_decode (h : decode x = .finite negative m q) : IsNormal m q := by
  rw [decode] at h
  simp only [Nat.pow_eq] at h
  have hfield : x.toBits.toNat / 2 ^ 52 % 2 ^ 11 < 2 ^ 11 := Nat.mod_lt _ (by decide)
  have hfraction : x.toBits.toNat % 2 ^ 52 < 2 ^ 52 := Nat.mod_lt _ (by decide)
  split at h
  · split at h <;> cases h
  · split at h
    · cases h
      exact .inl ⟨hfraction, rfl⟩
    · cases h
      right
      omega

theorem IsNormal.lt_pow (h : IsNormal m q) : m < 2 ^ 53 := by
  rcases h with ⟨hm, -⟩ | ⟨-, hm, -⟩ <;> omega

theorem IsNormal.exponent_range (h : IsNormal m q) : -1074 ≤ q ∧ q ≤ 971 := by
  rcases h with ⟨-, rfl⟩ | ⟨-, -, hq⟩
  · omega
  · exact hq

theorem IsNormal.leading_of_exponent (h : IsNormal m q) (hq : -1074 < q) : 2 ^ 52 ≤ m := by
  rcases h with ⟨-, rfl⟩ | ⟨hlead, -⟩
  · omega
  · exact hlead

/-- A number with a sign. -/
def signed (negative : Bool) (y : ℚ) : ℚ := if negative then -y else y

/-- The number that the bits say, if they say one. -/
def Decoded.number? : Decoded → Option ℚ
  | .finite negative m q => some (signed negative (magnitude m q))
  | _ => none

theorem magnitude_nonneg (m : Nat) (q : Int) : 0 ≤ magnitude m q :=
  mul_nonneg (Nat.cast_nonneg m) (two_zpow_pos q).le

theorem ratio_eq (negative : Bool) (m : Nat) (q : Int) :
    0 < (ratio negative m q).2 ∧
      ((ratio negative m q).1 : ℚ) = signed negative (magnitude m q) * (ratio negative m q).2 := by
  obtain ⟨hpos, htwo⟩ := twoPower_eq q
  refine ⟨hpos, ?_⟩
  rw [ratio, signed, magnitude]
  cases negative
  · simp only [Bool.false_eq_true, if_false]
    push_cast
    rw [htwo, mul_assoc]
  · simp only [if_true]
    push_cast
    rw [htwo, neg_mul, mul_assoc]

theorem exactQuotient_iff {a n : Int} {den : Nat} (hden : 0 < den) :
    (if a % den = 0 then some (a / den) else none) = some n ↔ a = n * den := by
  have hne : (den : Int) ≠ 0 := by omega
  constructor
  · intro h
    split at h
    · rename_i hmod
      rw [← Option.some.inj h, Int.ediv_mul_cancel (Int.dvd_of_emod_eq_zero hmod)]
    · contradiction
  · rintro rfl
    rw [if_pos (Int.mul_emod_left n den), Int.mul_ediv_cancel n hne]

theorem toInt?_eq_some_iff {n : Int} : toInt? x = some n ↔ (decode x).number? = some (n : ℚ) := by
  rw [toInt?]
  cases decode x with
  | nan => exact iff_of_false nofun nofun
  | infinite => exact iff_of_false nofun nofun
  | finite negative m q =>
    obtain ⟨hpos, hratio⟩ := ratio_eq negative m q
    have hne : ((ratio negative m q).2 : ℚ) ≠ 0 := Nat.cast_ne_zero.mpr (Nat.ne_of_gt hpos)
    refine (exactQuotient_iff hpos).trans ?_
    rw [Decoded.number?, Option.some.injEq, ← mul_left_inj' hne, ← hratio]
    exact_mod_cast Iff.rfl

/-! ## Integers that are doubles -/

theorem log2_mul_pow (h : 0 < n) (k : Nat) : (n * 2 ^ k).log2 = n.log2 + k := by
  have hpos : 0 < 2 ^ k := Nat.two_pow_pos k
  obtain ⟨hlow, hhigh⟩ := (Nat.log2_eq_iff (Nat.ne_of_gt h)).mp rfl
  rw [Nat.log2_eq_iff (Nat.ne_of_gt (Nat.mul_pos h hpos)), Nat.add_right_comm, Nat.pow_add,
    Nat.pow_add _ _ k]
  exact ⟨Nat.mul_le_mul_right _ hlow, Nat.mul_lt_mul_of_pos_right hhigh hpos⟩

theorem significand_of_magnitude (hlow : 2 ^ 52 ≤ m) (hhigh : m < 2 ^ 53) (h : magnitude m q = n) :
    (n.log2 : Int) = 52 + q ∧ significand n = m := by
  have hm : 0 < m := by omega
  have hlog : m.log2 = 52 := (Nat.log2_eq_iff (Nat.ne_of_gt hm)).mpr ⟨hlow, hhigh⟩
  rw [magnitude] at h
  rcases le_or_gt 0 q with hq | hq
  · obtain ⟨k, rfl⟩ := Int.eq_ofNat_of_zero_le hq
    rw [zpow_natCast] at h
    obtain rfl : m * 2 ^ k = n := by exact_mod_cast h
    have hlog' := log2_mul_pow hm k
    refine ⟨by omega, ?_⟩
    rw [significand, if_pos (by omega), hlog', hlog, Nat.add_sub_cancel_left]
    exact divNearest_mul m (Nat.two_pow_pos k)
  · obtain ⟨k, rfl⟩ : ∃ k : Nat, q = -(k : Int) := ⟨(-q).toNat, by omega⟩
    have hpow : (2 : ℚ) ^ k ≠ 0 := pow_ne_zero k two_ne_zero
    rw [zpow_neg, zpow_natCast, ← div_eq_mul_inv, div_eq_iff hpow] at h
    obtain rfl : m = n * 2 ^ k := by exact_mod_cast h
    have hlog' := log2_mul_pow (Nat.pos_of_mul_pos_right hm) k
    refine ⟨by omega, ?_⟩
    rw [significand, if_neg (by omega), show 52 - n.log2 = k by omega]

theorem IsNormal.leading_of_one_le (h : IsNormal m q) (hone : 1 ≤ magnitude m q) :
    2 ^ 52 ≤ m ∧ m < 2 ^ 53 ∧ q ≤ 971 := by
  rcases h with ⟨hm, rfl⟩ | ⟨hlow, hhigh, -, hq⟩
  · exfalso
    have hsmall : magnitude m (-1074) < 2 ^ (52 : Int) * 2 ^ (-1074 : Int) := by
      apply mul_lt_mul_of_pos_right _ (two_zpow_pos _)
      exact_mod_cast hm
    have htiny : (2 : ℚ) ^ (52 : Int) * 2 ^ (-1074 : Int) < 1 := by
      rw [← zpow_add₀ two_ne_zero]
      exact zpow_lt_one_of_neg₀ one_lt_two (by decide)
    linarith
  · exact ⟨hlow, hhigh, hq⟩

theorem signed_eq_intCast {n : Int} {y : ℚ} (hy : 0 ≤ y) (h : signed negative y = n) :
    y = n.natAbs ∧ (n ≠ 0 → decide (n < 0) = negative) := by
  rw [Nat.cast_natAbs, Int.cast_abs, ← h, signed]
  cases negative
  · rw [signed, if_neg Bool.false_ne_true] at h
    rw [if_neg Bool.false_ne_true, abs_of_nonneg hy]
    refine ⟨rfl, fun _ => decide_eq_false (not_lt.mpr ?_)⟩
    rw [h] at hy
    exact_mod_cast hy
  · rw [signed, if_pos rfl] at h
    rw [if_pos rfl, abs_neg, abs_of_nonneg hy]
    refine ⟨rfl, fun hn => decide_eq_true (lt_of_le_of_ne ?_ hn)⟩
    have hle : (n : ℚ) ≤ 0 := by linarith
    exact_mod_cast hle

/-- An integer that a double is, zero apart, is rounded to it. -/
theorem ofInt?_of_number? {n : Int} (hn : n ≠ 0) (h : (decode x).number? = some (n : ℚ)) :
    ∃ y, ofInt? n = some y ∧ decode y = decode x := by
  cases hx : decode x with
  | nan => rw [hx] at h; cases h
  | infinite => rw [hx] at h; cases h
  | finite negative m q =>
    rw [hx, Decoded.number?, Option.some.injEq] at h
    obtain ⟨habs, hsign⟩ := signed_eq_intCast (magnitude_nonneg m q) h
    have hpos : 0 < n.natAbs := Int.natAbs_pos.mpr hn
    have hone : 1 ≤ magnitude m q := by
      rw [habs]
      exact_mod_cast hpos
    obtain ⟨hlow, hhigh, hq⟩ := (isNormal_of_decode hx).leading_of_one_le hone
    obtain ⟨hlog, hsig⟩ := significand_of_magnitude hlow hhigh habs
    have hlog' : (significand n.natAbs).log2 = 52 := by
      rw [hsig, Nat.log2_eq_iff (by omega)]
      exact ⟨hlow, hhigh⟩
    refine ⟨encode negative m q, ?_, decode_encode (isNormal_of_decode hx)⟩
    rw [ofInt?, round?_one hpos, hlog', if_neg (by omega), hsig, hsign hn,
      show (n.natAbs.log2 : Int) - 52 = q by omega]

/-! ## Rounding keeps the order -/

theorem le_divNearest (n d : Nat) : n / d ≤ divNearest n d := by
  rcases divNearest_cases n d with ⟨h, -⟩ | ⟨h, -⟩ <;> omega

theorem log2_le_log2 {a : Nat} (ha : a ≠ 0) (h : a ≤ n) : a.log2 ≤ n.log2 := by
  rw [Nat.le_log2 (by omega)]
  exact (Nat.log2_self_le ha).trans h

/-- A number of 53 digits is not above the rounding of one that it is not above. -/
theorem le_significand {a : Nat} (ha : 52 ≤ a.log2) (hdvd : 2 ^ (a.log2 - 52) ∣ a) (hle : a ≤ n) :
    a ≤ significand n * 2 ^ (n.log2 - 52) := by
  have hpos : 0 < a := by
    apply Nat.pos_of_ne_zero
    rintro rfl
    contradiction
  have hlog := log2_le_log2 (Nat.ne_of_gt hpos) hle
  rcases Nat.eq_or_lt_of_le hlog with heq | hlt
  · rw [heq] at hdvd
    rw [significand, if_pos (by omega)]
    apply Nat.le_trans _ (Nat.mul_le_mul_right _ (le_divNearest n _))
    obtain ⟨c, hc⟩ := hdvd
    rw [hc, Nat.mul_comm]
    apply Nat.mul_le_mul_right
    rw [Nat.le_div_iff_mul_le (Nat.two_pow_pos _), Nat.mul_comm, ← hc]
    exact hle
  · obtain ⟨hlow, -⟩ := significand_bounds (hpos.trans_le hle)
    have habove : a < 2 ^ (a.log2 + 1) := Nat.lt_log2_self
    calc a
      _ ≤ 2 ^ n.log2 := habove.le.trans (Nat.pow_le_pow_right (by decide) hlt)
      _ = 2 ^ 52 * 2 ^ (n.log2 - 52) := by
        rw [← Nat.pow_add]
        congr 1
        omega
      _ ≤ _ := Nat.mul_le_mul_right _ hlow

theorem decode_ofInt? {n : Int} (hn : n ≠ 0) (h : ofInt? n = some x) :
    ∃ m q, decode x = .finite (decide (n < 0)) m q ∧
      magnitude m q = significand n.natAbs * 2 ^ ((n.natAbs.log2 : Int) - 52) := by
  have hpos : 0 < n.natAbs := Int.natAbs_pos.mpr hn
  rw [ofInt?, round?_one hpos] at h
  split at h
  · contradiction
  · rename_i m q hround
    split at hround
    · contradiction
    · rename_i hrange
      cases hround
      cases h
      rcases isNormal_significand hpos (q := (n.natAbs.log2 : Int) - 52) (by omega) (by omega) with
        ⟨htop, hnormal⟩ | ⟨-, hnormal⟩
      · refine ⟨2 ^ 52, (n.natAbs.log2 : Int) - 52 + 1, ?_, ?_⟩
        · rw [encode_top htop rfl (by omega), decode_encode hnormal]
        · rw [magnitude, htop, zpow_add_one₀ two_ne_zero]
          push_cast
          ring
      · exact ⟨_, _, decode_encode hnormal, rfl⟩

end Formulary.Binary
