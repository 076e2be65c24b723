import Formulary.Decimal.Style
import Formulary.Proofs.Decimal.Digits
import Formulary.Proofs.Text.Plain

/-!
# The standard notation of numbers

In the standard notation digits have a point or zeros behind them up to the twenty-first place, up to five
zeros between the point and the first of them, and an exponent beyond. The notation of numbers on display
has an exponent from other places on, and is the standard one between them.
-/

namespace Formulary.Decimal

variable {d : Digits} {ds : List Char} {e : Int} {n : Nat}

/-- Digits with an exponent: a point behind the first one if more follow, the sign of the exponent, and
its numeral. -/
def exponentForm (ds : List Char) (e : Int) : List Char :=
  let mantissa := match ds with
    | first :: second :: rest => first :: '.' :: second :: rest
    | ds => ds
  mantissa ++ 'e' :: (if e < 0 then '-' else '+') :: numeral e.natAbs

/-- The standard notation of digits. -/
def standard (d : Digits) : List Char :=
  let ds := numeral d.coefficient
  if ds.length ≤ d.point ∧ d.point ≤ 21 then
    ds ++ List.replicate (d.point - ds.length).toNat '0'
  else if 0 < d.point ∧ d.point ≤ 21 then ds.take d.point.toNat ++ '.' :: ds.drop d.point.toNat
  else if -6 < d.point ∧ d.point ≤ 0 then
    '0' :: '.' :: (List.replicate (-d.point).toNat '0' ++ ds)
  else exponentForm ds (d.point - 1)

/-! ## Numerals -/

theorem numeral_ne_nil (n : Nat) : numeral n ≠ [] := Nat.toDigits_ne_nil

theorem length_numeral_pos (n : Nat) : 0 < (numeral n).length :=
  List.length_pos_iff.mpr (numeral_ne_nil n)

theorem numeral_inj {a b : Nat} : numeral a = numeral b ↔ a = b := by
  constructor
  · intro h
    have hvalue := congrArg (Nat.ofDigitChars 10 · 0) h
    simpa [numeral, Nat.ofDigitChars_ten_toDigits] using hvalue
  · exact congrArg numeral

theorem numeral_mul_pow (h : 0 < n) (k : Nat) :
    numeral (n * 10 ^ k) = numeral n ++ List.replicate k '0' := by
  induction k with
  | zero => rw [Nat.pow_zero, Nat.mul_one, List.replicate_zero, List.append_nil]
  | succ k ih =>
    have hpos : 0 < n * 10 ^ k := Nat.mul_pos h (Nat.pow_pos (by decide))
    have happend := Nat.toDigits_append_toDigits (b := 10) (d := 0) (by decide) hpos (by decide)
    rw [List.replicate_succ', ← List.append_assoc, ← ih, Nat.pow_succ, ← Nat.mul_assoc,
      Nat.mul_comm _ 10]
    exact happend.symm

theorem point_not_mem_numeral (n : Nat) : '.' ∉ numeral n := by
  intro hmem
  have hdigit : '.'.isDigit = true := Text.isDigit_of_mem_numeral hmem
  contradiction

theorem head?_numeral_ne_zero (h : 0 < n) : (numeral n).head? ≠ some '0' :=
  fun hzero => Nat.ne_of_gt h (Text.eq_zero_of_head?_numeral hzero)

/-! ## The cases of the standard notation -/

theorem head?_exponentForm (h : ds ≠ []) (e : Int) : (exponentForm ds e).head? = ds.head? := by
  rcases ds with - | ⟨first, - | ⟨second, rest⟩⟩
  · contradiction
  · rfl
  · rfl

theorem standard_of_zeros (h : digitCount d.coefficient ≤ d.point) (h' : d.point ≤ 21) :
    standard d = numeral d.coefficient ++
      List.replicate (d.point - digitCount d.coefficient).toNat '0' :=
  if_pos ⟨h, h'⟩

theorem standard_of_inside (h : 0 < d.point) (h' : d.point < digitCount d.coefficient)
    (h'' : d.point ≤ 21) :
    standard d = (numeral d.coefficient).take d.point.toNat ++
      '.' :: (numeral d.coefficient).drop d.point.toNat :=
  (if_neg fun hzeros => absurd hzeros.1 (not_le.mpr h')).trans (if_pos ⟨h, h''⟩)

theorem standard_of_front (h : -6 < d.point) (h' : d.point ≤ 0) :
    standard d = '0' :: '.' :: (List.replicate (-d.point).toNat '0' ++ numeral d.coefficient) := by
  have hpos : 0 < (numeral d.coefficient).length := length_numeral_pos d.coefficient
  unfold standard
  dsimp only
  rw [if_neg (show ¬ _ by omega), if_neg (show ¬ _ by omega), if_pos ⟨h, h'⟩]

theorem standard_of_far (h : d.point ≤ -6 ∨ 21 < d.point) :
    standard d = exponentForm (numeral d.coefficient) (d.point - 1) := by
  unfold standard
  dsimp only
  rw [if_neg (by omega), if_neg (by omega), if_neg (by omega)]

/-! ## The notation on display -/

theorem scientific_one (ds : List Char) (e : Int) : scientific 1 ds e = exponentForm ds e := by
  have hpadded : padded 1 e.natAbs = numeral e.natAbs := by
    have hpos := length_numeral_pos e.natAbs
    rw [padded, Nat.sub_eq_zero_of_le hpos, List.replicate_zero, List.nil_append]
  unfold scientific exponentForm
  rw [hpadded]
  rcases ds with - | ⟨first, - | ⟨second, rest⟩⟩ <;> rfl

theorem layout_displayStyle (d : Digits) :
    displayStyle.layout d =
      if -4 < d.point ∧ d.point ≤ 16 then positional false (numeral d.coefficient) d.point
      else exponentForm (numeral d.coefficient) (d.point - 1) := by
  have hfrom : displayStyle.positionalFrom = -4 := rfl
  have hbelow : displayStyle.positionalBelow = 16 := rfl
  rw [Style.layout]
  by_cases h : -4 < d.point ∧ d.point ≤ 16
  · rw [if_pos h, if_pos (by omega)]
    rfl
  · rw [if_neg h, if_neg (by omega), ← scientific_one]
    rfl

theorem layout_displayStyle_of_far (h : d.point ≤ -4 ∨ 16 < d.point) :
    displayStyle.layout d = exponentForm (numeral d.coefficient) (d.point - 1) := by
  rw [layout_displayStyle, if_neg (by omega)]

/-- Between the places beyond which either has an exponent, the notations are the same. -/
theorem layout_displayStyle_of_near (h : -4 < d.point) (h' : d.point ≤ 16) :
    displayStyle.layout d = standard d := by
  rw [layout_displayStyle, if_pos ⟨h, h'⟩, positional]
  rcases le_or_gt d.point 0 with hfront | hbehind
  · rw [if_pos hfront, standard_of_front (by omega) hfront]
    rfl
  · rw [if_neg (not_le.mpr hbehind)]
    have hlength : (numeral d.coefficient).length = digitCount d.coefficient := rfl
    rcases le_or_gt (digitCount d.coefficient : Int) d.point with hzeros | hinside
    · have hfits : digitCount d.coefficient ≤ d.point.toNat := by omega
      have hcount : d.point.toNat - digitCount d.coefficient =
        (d.point - digitCount d.coefficient).toNat := by omega
      rw [standard_of_zeros hzeros (by omega), hlength, if_pos hfits, hcount,
        if_neg Bool.false_ne_true, List.append_nil]
    · have hsplit : ¬ digitCount d.coefficient ≤ d.point.toNat := by omega
      rw [standard_of_inside hbehind hinside (by omega), hlength, if_neg hsplit]

/-- Where only the notation on display has an exponent, they differ in the first character. -/
theorem exponentForm_ne_standard (hpos : 0 < d.coefficient) (h : -6 < d.point) (h' : d.point ≤ -4) :
    exponentForm (numeral d.coefficient) (d.point - 1) ≠ standard d := by
  intro heq
  have hhead := congrArg List.head? heq
  rw [standard_of_front h (by omega), head?_exponentForm (numeral_ne_nil _)] at hhead
  exact head?_numeral_ne_zero hpos hhead

/-! ## Whole numbers -/

theorem Digits.value_eq_natCast_iff (hlast : d.coefficient % 10 ≠ 0) :
    d.value = n ↔ ∃ k : Nat, d.point = digitCount d.coefficient + k ∧ d.coefficient * 10 ^ k = n := by
  rw [value]
  constructor
  · intro h
    rcases le_or_gt (digitCount d.coefficient : Int) d.point with hle | hgt
    · obtain ⟨k, hk⟩ := Int.eq_ofNat_of_zero_le (sub_nonneg.mpr hle)
      rw [hk, zpow_natCast] at h
      exact ⟨k, by omega, by exact_mod_cast h⟩
    · exfalso
      -- a digit behind the point would have to be zero
      obtain ⟨k, hk⟩ : ∃ k : Nat, d.point - digitCount d.coefficient = -((k + 1 : Nat) : Int) :=
        ⟨(digitCount d.coefficient - d.point - 1).toNat, by omega⟩
      rw [hk, zpow_neg, zpow_natCast, ← div_eq_mul_inv, div_eq_iff (by positivity)] at h
      have hcoefficient : d.coefficient = n * 10 ^ (k + 1) := by exact_mod_cast h
      rw [Nat.pow_succ, ← Nat.mul_assoc] at hcoefficient
      omega
  · rintro ⟨k, hk, rfl⟩
    rw [hk, add_sub_cancel_left, zpow_natCast]
    push_cast
    rfl

/-- The standard notation up to the twenty-first place is the numeral of a number exactly if the digits
write that number. -/
theorem standard_eq_numeral_iff (hpos : 0 < d.coefficient) (hlast : d.coefficient % 10 ≠ 0)
    (h : 0 < d.point) (h' : d.point ≤ 21) : standard d = numeral n ↔ d.value = n := by
  rw [Digits.value_eq_natCast_iff hlast]
  rcases le_or_gt (digitCount d.coefficient : Int) d.point with hle | hgt
  · obtain ⟨k, hk⟩ := Int.eq_ofNat_of_zero_le (sub_nonneg.mpr hle)
    rw [standard_of_zeros hle h', hk, Int.toNat_natCast, ← numeral_mul_pow hpos, numeral_inj]
    constructor
    · intro hn
      exact ⟨k, by omega, hn⟩
    · rintro ⟨k', hk', hn⟩
      obtain rfl : k' = k := by omega
      exact hn
  · rw [standard_of_inside h hgt h']
    refine iff_of_false ?_ ?_
    · intro heq
      apply point_not_mem_numeral n
      rw [← heq]
      exact List.mem_append_right _ List.mem_cons_self
    · rintro ⟨k, hk, -⟩
      omega

end Formulary.Decimal
