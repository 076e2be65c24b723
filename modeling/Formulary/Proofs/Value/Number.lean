import Formulary.Proofs.Decimal.Point
import Formulary.Value.Written

/-!
# The text of a number

A number is displayed by what it is: a whole one has the same text as an integer, as a double and as a
machine number. The text of an integer is its numeral, from `10^21` on the digits of the double next to it
with an exponent, and beyond the range of doubles an infinity.
-/

namespace Formulary

open Binary Decimal

variable {x y : Float} {negative : Bool} {m : Nat} {q n : Int}

/-! ## Doubles -/

theorem displayFloat_congr (h : decode x = decode y) : displayFloat x = displayFloat y := by
  rw [displayFloat, displayFloat, toInt?, toInt?, h]

theorem displayFloat_of_plain (h : (decode x).number? = some (n : ℚ)) (hn : n.natAbs < plainIntegerLimit) :
    displayFloat x = toString n := by
  rw [displayFloat, toInt?_eq_some_iff.mpr h]
  exact if_pos hn

theorem displayFloat_of_not_plain (hx : decode x = .finite negative m q) (hm : 0 < m)
    (h : ∀ k : Nat, magnitude m q = k → plainIntegerLimit ≤ k) :
    displayFloat x =
      String.ofList (signText negative ++ displayStyle.layout (shortest binary64 m q)) := by
  have hwrite : displayStyle.write binary64 (decode x) =
      String.ofList (signText negative ++ displayStyle.layout (shortest binary64 m q)) := by
    rw [hx, Style.write, if_neg (Nat.ne_of_gt hm)]
    rfl
  rw [displayFloat, ← hwrite]
  split
  · rename_i n hn
    rw [toInt?_eq_some_iff, hx, Decoded.number?, Option.some.injEq] at hn
    exact if_neg (Nat.not_lt_of_le (h _ (signed_eq_intCast (magnitude_nonneg m q) hn).1))
  · rfl

/-! ## Integers -/

theorem displayInt_of_plain (h : n.natAbs < plainIntegerLimit) : displayInt n = toString n := if_pos h

theorem displayInt_of_ofInt? (h : plainIntegerLimit ≤ n.natAbs) (hx : ofInt? n = some x) :
    displayInt n = displayFloat x := by
  rw [displayInt, if_neg (Nat.not_lt_of_le h), hx]

theorem halfBelow_le_halfBelow {j k : Nat} (h : j ≤ k) : halfBelow j ≤ halfBelow k :=
  Nat.mul_le_mul_left _ (Nat.pow_le_pow_right Nat.two_pos h)

theorem plainIntegerLimit_le_overflowLimit : plainIntegerLimit ≤ overflowLimit :=
  calc plainIntegerLimit
    _ ≤ halfBelow 17 := by decide
    _ ≤ overflowLimit := halfBelow_le_halfBelow (by decide)

theorem displayInt_of_overflow (h : overflowLimit ≤ n.natAbs) :
    displayInt n = if 0 < n then "Infinity" else "-Infinity" := by
  have hlimit := plainIntegerLimit_le_overflowLimit.trans h
  rw [displayInt, if_neg (Nat.not_lt_of_le hlimit), (ofInt?_eq_none_iff n).mpr h]

/-- A whole number has the same text as a double and as an integer. -/
theorem displayFloat_eq_displayInt (h : (decode x).number? = some (n : ℚ)) :
    displayFloat x = displayInt n := by
  rcases Nat.lt_or_ge n.natAbs plainIntegerLimit with hplain | hlarge
  · rw [displayFloat_of_plain h hplain, displayInt_of_plain hplain]
  · have hn : n ≠ 0 := by
      rintro rfl
      exact absurd hlarge (by decide)
    obtain ⟨y, hy, hsame⟩ := ofInt?_of_number? hn h
    rw [displayInt_of_ofInt? hlarge hy, displayFloat_congr hsame]

/-! ## Integers with an exponent -/

/-- What a large integer is rounded to is no smaller than the least integer that has an exponent. -/
theorem pow_le_of_ofInt? (h : plainIntegerLimit ≤ n.natAbs) (hx : ofInt? n = some x) :
    ∃ m q, decode x = .finite (decide (n < 0)) m q ∧ (10 : ℚ) ^ (21 : Int) ≤ magnitude m q := by
  have hn : n ≠ 0 := by
    rintro rfl
    exact absurd h (by decide)
  have hlog : plainIntegerLimit.log2 = 69 := rfl
  have hdvd : 2 ^ (plainIntegerLimit.log2 - 52) ∣ plainIntegerLimit := by decide
  have hround := le_significand (by omega) hdvd h
  have hlong : plainIntegerLimit.log2 ≤ n.natAbs.log2 := log2_le_log2 (by decide) h
  obtain ⟨m, q, hdecode, hmagnitude⟩ := decode_ofInt? hn hx
  refine ⟨m, q, hdecode, ?_⟩
  have hexponent : (n.natAbs.log2 : Int) - 52 = (n.natAbs.log2 - 52 : Nat) := by omega
  rw [hmagnitude, hexponent, zpow_natCast]
  calc (10 : ℚ) ^ (21 : Int)
    _ = (plainIntegerLimit : ℚ) := by norm_num [plainIntegerLimit]
    _ ≤ _ := by exact_mod_cast hround

theorem displayInt_of_large (h : plainIntegerLimit ≤ n.natAbs) (hx : ofInt? n = some x) :
    ∃ m q, decode x = .finite (decide (n < 0)) m q ∧
      RoundTrips (decide (n < 0)) m q (shortest binary64 m q) ∧
      21 < (shortest binary64 m q).point ∧
      displayInt n = String.ofList (signText (n < 0) ++
        exponentForm (numeral (shortest binary64 m q).coefficient)
          ((shortest binary64 m q).point - 1)) := by
  obtain ⟨m, q, hdecode, hlarge⟩ := pow_le_of_ofInt? h hx
  have hm : 0 < m := by
    apply Nat.pos_of_ne_zero
    rintro rfl
    rw [magnitude, Nat.cast_zero, zero_mul] at hlarge
    exact absurd hlarge (not_le.mpr (ten_zpow_pos 21))
  have hv := isNormal_of_decode hdecode
  have hshort := isShortest_shortest binary64 hm hv.lt_pow q
  have hpoint : 21 < (shortest binary64 m q).point :=
    (Digits.pow_le_value_iff hshort.pos).mp (hshort.pow_le hm hlarge)
  have hlimit : ∀ k : Nat, magnitude m q = k → plainIntegerLimit ≤ k := by
    intro k hk
    rw [hk] at hlarge
    exact_mod_cast hlarge
  refine ⟨m, q, hdecode, roundTrips_shortest hm hv _, hpoint, ?_⟩
  rw [displayInt_of_ofInt? h hx, displayFloat_of_not_plain hdecode hm hlimit,
    layout_displayStyle_of_far (.inr (by omega))]

/-! ## Infinities -/

theorem overflowLimit_eq : overflowLimit = 2 ^ 1024 - 2 ^ 970 := by
  rw [overflowLimit, halfBelow]
  omega

theorem exists_ofInt? (h : n.natAbs < overflowLimit) : ∃ x, ofInt? n = some x :=
  Option.ne_none_iff_exists'.mp (mt (ofInt?_eq_none_iff n).mp (Nat.not_le_of_lt h))

theorem not_mem_numeral_I (k : Nat) : 'I' ∉ numeral k :=
  fun hmem => absurd (Text.isDigit_of_mem_numeral hmem) (by decide)

theorem not_mem_exponentForm_I (k : Nat) (e : Int) : 'I' ∉ exponentForm (numeral k) e := by
  have hk := not_mem_numeral_I k
  have he := not_mem_numeral_I e.natAbs
  have hsign : 'I' ≠ if e < 0 then '-' else '+' := by
    split <;> decide
  unfold exponentForm
  generalize numeral k = ds at hk
  rcases ds with - | ⟨first, - | ⟨second, rest⟩⟩
  · simpa using ⟨hsign, he⟩
  · simpa [hsign, he] using hk
  · simpa [hsign, he] using hk

theorem not_mem_displayInt_I (h : n.natAbs < overflowLimit) : 'I' ∉ (displayInt n).toList := by
  have hsign (negative : Bool) : 'I' ∉ signText negative := by
    cases negative <;> decide
  rcases Nat.lt_or_ge n.natAbs plainIntegerLimit with hplain | hlarge
  · rw [displayInt_of_plain hplain, toString_int, String.toList_ofList, List.mem_append]
    exact not_or.mpr ⟨hsign _, not_mem_numeral_I _⟩
  · obtain ⟨x, hx⟩ := exists_ofInt? h
    obtain ⟨m, q, -, -, -, htext⟩ := displayInt_of_large hlarge hx
    rw [htext, String.toList_ofList, List.mem_append]
    exact not_or.mpr ⟨hsign _, not_mem_exponentForm_I _ _⟩

theorem displayInt_eq_infinity_iff (n : Int) :
    (displayInt n = "Infinity" ↔ overflowLimit ≤ n.natAbs ∧ 0 < n) ∧
      (displayInt n = "-Infinity" ↔ overflowLimit ≤ n.natAbs ∧ n < 0) := by
  have hpositive : 'I' ∈ "Infinity".toList := by decide
  have hnegative : 'I' ∈ "-Infinity".toList := by decide
  rcases Nat.lt_or_ge n.natAbs overflowLimit with hrange | hover
  · have hfree := not_mem_displayInt_I hrange
    constructor
    · refine iff_of_false ?_ fun hand => absurd hand.1 (Nat.not_le_of_lt hrange)
      intro htext
      rw [htext] at hfree
      exact hfree hpositive
    · refine iff_of_false ?_ fun hand => absurd hand.1 (Nat.not_le_of_lt hrange)
      intro htext
      rw [htext] at hfree
      exact hfree hnegative
  · rw [displayInt_of_overflow hover]
    have hn : n ≠ 0 := by
      rintro rfl
      exact absurd hover (Nat.not_le_of_lt (halfBelow_bounds 970).1)
    rcases lt_or_gt_of_ne hn with hneg | hpos
    · rw [if_neg (by omega)]
      exact ⟨iff_of_false (by decide) (by omega), iff_of_true rfl ⟨hover, hneg⟩⟩
    · rw [if_pos hpos]
      exact ⟨iff_of_true rfl ⟨hover, hpos⟩, iff_of_false (by decide) (by omega)⟩

namespace Value

/-- A whole number is displayed alike as a double and as an integer, and a machine number as the plain one
that it is. Below `10^21` the text of an integer is its numeral, which reads back. From there on it is that
of the digits of the double next to it, with an exponent, and an infinity exactly for those that are out
of the range of doubles. -/
theorem display_is_of_number :
    (∀ (x : Float) (n : Int), (decode x).number? = some (n : ℚ) →
      (Value.float x).display = (Value.int n).display) ∧
    (∀ (w : Width) (n : Int), (Value.machine (.word w n)).display = (Value.int n).display) ∧
    (∀ (p : Precision) (x : Float), (Value.machine (.real p x)).display = (Value.float x).display) ∧
    (∀ n : Int, n.natAbs < 10 ^ 21 →
      (Value.int n).display = String.ofList (signText (n < 0) ++ numeral n.natAbs) ∧
        readInt (Value.int n).display = .ok n) ∧
    (∀ n : Int, 10 ^ 21 ≤ n.natAbs → n.natAbs < 2 ^ 1024 - 2 ^ 970 →
      ∃ x m q d, ofInt? n = some x ∧ decode x = .finite (decide (n < 0)) m q ∧
        RoundTrips (decide (n < 0)) m q d ∧ 21 < d.point ∧
        (Value.int n).display =
          String.ofList (signText (n < 0) ++ exponentForm (numeral d.coefficient) (d.point - 1))) ∧
    ∀ n : Int, (ofInt? n = Option.none ↔ 2 ^ 1024 - 2 ^ 970 ≤ n.natAbs) ∧
      ((Value.int n).display = "Infinity" ↔ ofInt? n = Option.none ∧ 0 < n) ∧
      ((Value.int n).display = "-Infinity" ↔ ofInt? n = Option.none ∧ n < 0) := by
  refine ⟨?_, fun _ _ => rfl, fun _ _ => rfl, ?_, ?_, ?_⟩
  · intro x n h
    exact displayFloat_eq_displayInt h
  · intro n hn
    have htext : (Value.int n).display = toString n := displayInt_of_plain hn
    have hcount : (Nat.toDigits 10 n.natAbs).length ≤ maxIntegerDigits := by
      have hle : (Nat.toDigits 10 n.natAbs).length ≤ 21 :=
        (Nat.length_toDigits_le_iff (by decide) (by decide)).mpr hn
      exact hle.trans (by decide)
    rw [htext]
    exact ⟨toString_int n, readInt_toString hcount⟩
  · intro n hlarge hrange
    rw [← overflowLimit_eq] at hrange
    obtain ⟨x, hx⟩ := exists_ofInt? hrange
    obtain ⟨m, q, hdecode, htrips, hpoint, htext⟩ := displayInt_of_large hlarge hx
    exact ⟨x, m, q, _, hx, hdecode, htrips, hpoint, htext⟩
  · intro n
    rw [ofInt?_eq_none_iff, overflowLimit_eq]
    refine ⟨Iff.rfl, ?_⟩
    rw [← overflowLimit_eq]
    exact displayInt_eq_infinity_iff n

/-- The zero with a sign, a double that is a large integer, an integer between two doubles and one beyond
them all. -/
theorem display_is_of_number_kinds :
    let zero := encode true 0 (-1074)
    let large := encode true (2 ^ 52) 100
    (decode zero).number? = some ((0 : Int) : ℚ) ∧
      (Value.float zero).display = (Value.int 0).display ∧
      (decode large).number? = some ((-2 ^ 152 : Int) : ℚ) ∧
      (Value.float large).display = (Value.int (-2 ^ 152)).display ∧
      readInt (Value.int (-999999999999999999999)).display = .ok (-999999999999999999999) ∧
      (∃ x m q d, ofInt? 1000000000000000000001 = some x ∧ decode x = .finite false m q ∧
        RoundTrips false m q d ∧ 21 < d.point ∧
        (Value.int 1000000000000000000001).display =
          String.ofList (exponentForm (numeral d.coefficient) (d.point - 1))) ∧
      (Value.int (-2 ^ 1024)).display = "-Infinity" := by
  intro zero large
  obtain ⟨hwhole, -, -, hnumeral, hexponent, hinfinity⟩ := display_is_of_number
  have hzero : (decode zero).number? = some ((0 : Int) : ℚ) := by
    have hdecode : decode zero = .finite true 0 (-1074) := by decide
    rw [hdecode, Decoded.number?, magnitude, signed]
    norm_num
  have hlarge : (decode large).number? = some ((-2 ^ 152 : Int) : ℚ) := by
    have hdecode : decode large = .finite true (2 ^ 52) 100 := by decide
    rw [hdecode, Decoded.number?, magnitude, signed]
    norm_num
  exact ⟨hzero, hwhole zero 0 hzero, hlarge, hwhole large _ hlarge,
    (hnumeral _ (by decide +kernel)).2, hexponent _ (by decide +kernel) (by decide +kernel),
    (hinfinity _).2.2.mpr ⟨(hinfinity _).1.mpr (by decide +kernel), by decide +kernel⟩⟩

end Value

end Formulary
