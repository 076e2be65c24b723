import Formulary.Proofs.Value.Number

/-!
# Displayed doubles and the standard notation

A double is displayed in the standard notation of its shortest digits, with two exceptions. It already has
an exponent where the standard notation still writes zeros behind the point, and a whole number below
`10^21` has all its digits where the standard notation has zeros behind the shortest ones.
-/

namespace Formulary

open Binary Decimal

variable {x : Float} {negative : Bool} {m k : Nat} {q : Int}

/-! ## Whole numbers -/

theorem exists_whole_of_large (hv : IsNormal m q) (h : 10 ^ 16 ≤ magnitude m q) :
    ∃ k : Nat, magnitude m q = k := by
  have hq : 0 ≤ q := by
    by_contra hneg
    have hlt : magnitude m q < magnitude (2 ^ 53) q := (magnitude_lt_iff q).mpr hv.lt_pow
    have hle : magnitude (2 ^ 53) q ≤ magnitude (2 ^ 53) 0 := magnitude_le_of_exponent _ (by omega)
    have hsmall : magnitude (2 ^ 53) 0 ≤ 10 ^ 16 := by
      norm_num [magnitude]
    linarith
  obtain ⟨j, rfl⟩ := Int.eq_ofNat_of_zero_le hq
  refine ⟨m * 2 ^ j, ?_⟩
  rw [magnitude, zpow_natCast]
  push_cast
  rfl

theorem whole_pos (hm : 0 < m) (hk : magnitude m q = k) : 0 < k := by
  rw [← Nat.cast_pos (α := ℚ), ← hk]
  exact magnitude_pos hm q

theorem displayFloat_of_whole (hx : decode x = .finite negative m q) (hm : 0 < m)
    (hk : magnitude m q = k) (hlimit : k < plainIntegerLimit) :
    displayFloat x = String.ofList (signText negative ++ numeral k) := by
  have hkpos := whole_pos hm hk
  have hnumber : (decode x).number? = some ((if negative then -(k : Int) else k : Int) : ℚ) := by
    rw [hx, Decoded.number?, hk, signed]
    cases negative <;> simp
  rw [displayFloat_of_plain hnumber (by split <;> simpa using hlimit), toString_int]
  cases negative
  · rw [if_neg Bool.false_ne_true, decide_eq_false (by omega), Int.natAbs_natCast]
    rfl
  · rw [if_pos rfl, decide_eq_true (by omega), Int.natAbs_neg, Int.natAbs_natCast]
    rfl

theorem exponent_nonpos_of_small (hv : IsNormal m q) (hsmall : magnitude m q < 2 ^ 53) : q ≤ 0 := by
  by_contra hpos
  have hlead : 2 ^ 52 ≤ m := by
    rcases hv with ⟨-, rfl⟩ | ⟨hlead, -⟩ <;> omega
  have hle : magnitude (2 ^ 52) 1 ≤ magnitude m q :=
    (magnitude_le_of_exponent _ (by omega)).trans (magnitude_le_of_le hlead q)
  have hpow : magnitude (2 ^ 52) 1 = 2 ^ 53 := by
    norm_num [magnitude]
  linarith

theorem point_pos_of_whole (hm : 0 < m) (hv : IsNormal m q) (hk : magnitude m q = k) :
    0 < (shortest binary64 m q).point := by
  have hshort := isShortest_shortest binary64 hm hv.lt_pow q
  rw [← Digits.pow_le_value_iff hshort.pos]
  apply hshort.pow_le hm
  rw [zpow_zero, hk]
  exact_mod_cast whole_pos hm hk

/-- The shortest digits of a whole number write a whole number. -/
theorem exists_whole_shortest (hm : 0 < m) (hv : IsNormal m q) (hk : magnitude m q = k) :
    ∃ n : Nat, (shortest binary64 m q).value = n := by
  have hshort := isShortest_shortest binary64 hm hv.lt_pow q
  have hkpos := whole_pos hm hk
  have hvalue : (Digits.mk k (digitCount k)).value = k := by
    rw [Digits.value, sub_self, zpow_zero, mul_one]
  have hcount := digitCount_pos k
  have hfewer : digitCount (shortest binary64 m q).coefficient ≤ digitCount k := by
    apply hshort.fewest ⟨k, digitCount k⟩ hkpos
    rw [hvalue, ← hk]
    exact contains_self hm
  have hpoint : ((digitCount k - 1 : Nat) : Int) < (shortest binary64 m q).point := by
    rw [← Digits.pow_le_value_iff hshort.pos]
    apply hshort.pow_le hm
    rw [hk, zpow_natCast]
    exact_mod_cast pow_digitCount_le hkpos
  obtain ⟨j, hj⟩ := Int.eq_ofNat_of_zero_le
    (show 0 ≤ (shortest binary64 m q).point - digitCount (shortest binary64 m q).coefficient by omega)
  exact ⟨_, (Digits.value_eq_natCast_iff hshort.last).mpr ⟨j, by omega, rfl⟩⟩

/-- The shortest digits of a whole number write it, as long as all whole numbers up to it are doubles. -/
theorem value_shortest_of_small (hm : 0 < m) (hv : IsNormal m q) (hk : magnitude m q = k)
    (hsmall : k < 2 ^ 53) : (shortest binary64 m q).value = k := by
  obtain ⟨n, hn⟩ := exists_whole_shortest hm hv hk
  have hq : q ≤ 0 := by
    apply exponent_nonpos_of_small hv
    rw [hk]
    exact_mod_cast hsmall
  have hunit : (2 : ℚ) ^ (q - 2) ≤ 1 / 4 := by
    calc (2 : ℚ) ^ (q - 2)
      _ ≤ 2 ^ (-2 : Int) := zpow_le_zpow_right₀ one_le_two (by omega)
      _ = 1 / 4 := by norm_num
  -- two whole numbers less than one apart
  obtain ⟨hlow, hhigh⟩ := (isShortest_shortest binary64 hm hv.lt_pow q).contains.near hm
  rw [hk, hn] at hlow hhigh
  have hle : n < k + 1 := by
    exact_mod_cast (by linarith : (n : ℚ) < k + 1)
  have hge : k < n + 1 := by
    exact_mod_cast (by linarith : (k : ℚ) < n + 1)
  rw [hn, show n = k by omega]

/-! ## The two notations -/

theorem ofList_signText_inj {cs ds : List Char} :
    String.ofList (signText negative ++ cs) = String.ofList (signText negative ++ ds) ↔ cs = ds := by
  rw [String.ofList_inj, List.append_cancel_left_eq]

theorem displayFloat_of_whole_eq_standard_iff (hx : decode x = .finite negative m q) (hm : 0 < m)
    (hk : magnitude m q = k) (hlimit : k < plainIntegerLimit) :
    displayFloat x =
        String.ofList (signText negative ++ standard (shortest binary64 m q)) ↔
      (shortest binary64 m q).value = k := by
  have hv := isNormal_of_decode hx
  have hshort := isShortest_shortest binary64 hm hv.lt_pow q
  have hpoint := point_pos_of_whole hm hv hk
  have hpoint' : (shortest binary64 m q).point ≤ (21 : Nat) := by
    rw [← not_lt, lt_point_iff_pow hm hv (by decide), hk, not_le]
    exact_mod_cast hlimit
  rw [displayFloat_of_whole hx hm hk hlimit, ofList_signText_inj, eq_comm,
    standard_eq_numeral_iff hshort.pos hshort.last hpoint hpoint']

theorem displayFloat_of_not_plain_eq_standard_iff (hx : decode x = .finite negative m q)
    (hm : 0 < m) (hlimit : ∀ k : Nat, magnitude m q = k → plainIntegerLimit ≤ k) :
    displayFloat x =
        String.ofList (signText negative ++ standard (shortest binary64 m q)) ↔
      (shortest binary64 m q).point ≤ -6 ∨ -4 < (shortest binary64 m q).point := by
  have hv := isNormal_of_decode hx
  have hshort := isShortest_shortest binary64 hm hv.lt_pow q
  rw [displayFloat_of_not_plain hx hm hlimit, ofList_signText_inj]
  rcases le_or_gt (shortest binary64 m q).point (-4) with hsmall | hplain
  · rw [layout_displayStyle_of_far (.inl hsmall)]
    rcases le_or_gt (shortest binary64 m q).point (-6) with htiny | hmiddle
    · exact iff_of_true (standard_of_far (.inl htiny)).symm (.inl htiny)
    · exact iff_of_false (exponentForm_ne_standard hshort.pos hmiddle hsmall) (by omega)
  · refine iff_of_true ?_ (.inr hplain)
    rcases le_or_gt (shortest binary64 m q).point 16 with hshown | hbeyond
    · exact layout_displayStyle_of_near hplain hshown
    · -- so large a double is whole
      have hlarge : 10 ^ 16 ≤ magnitude m q := (lt_point_iff_pow hm hv (by decide)).mp hbeyond
      obtain ⟨k, hk⟩ := exists_whole_of_large hv hlarge
      have hfar : (21 : Nat) < (shortest binary64 m q).point := by
        rw [lt_point_iff_pow hm hv (by decide), hk]
        exact_mod_cast hlimit k hk
      rw [layout_displayStyle_of_far (.inr hbeyond), standard_of_far (.inr hfar)]

theorem displayFloat_eq_standard_iff (hx : decode x = .finite negative m q) (hm : 0 < m) :
    displayFloat x =
        String.ofList (signText negative ++ standard (shortest binary64 m q)) ↔
      ((shortest binary64 m q).point ≤ -6 ∨ -4 < (shortest binary64 m q).point) ∧
        ∀ k : Nat, magnitude m q = k → k < plainIntegerLimit →
          (shortest binary64 m q).value = k := by
  by_cases hwhole : ∃ k : Nat, magnitude m q = k ∧ k < plainIntegerLimit
  · obtain ⟨k, hk, hlimit⟩ := hwhole
    rw [displayFloat_of_whole_eq_standard_iff hx hm hk hlimit]
    constructor
    · intro hvalue
      have hpoint := point_pos_of_whole hm (isNormal_of_decode hx) hk
      refine ⟨.inr (by omega), fun k' hk' _ => ?_⟩
      rw [hvalue, ← hk, hk']
    · intro h
      exact h.2 k hk hlimit
  · have hlimit : ∀ k : Nat, magnitude m q = k → plainIntegerLimit ≤ k := by
      intro k hk
      by_contra hlt
      exact hwhole ⟨k, hk, Nat.lt_of_not_le hlt⟩
    rw [displayFloat_of_not_plain_eq_standard_iff hx hm hlimit]
    refine (and_iff_left ?_).symm
    intro k hk hlt
    exact absurd (hlimit k hk) (Nat.not_le_of_lt hlt)

namespace Value

/-- A double is displayed in the standard notation of its shortest digits exactly if it is not between the
doubles next to a millionth and a ten-thousandth, where it has an exponent already, and is no whole number
below `10^21` that these digits do not write, as all of its digits are displayed. -/
theorem display_is_standard_iff (x : Float) (negative : Bool) (m : Nat) (q : Int)
    (hx : decode x = .finite negative m q) (hm : 0 < m) :
    let d := shortest binary64 m q
    RoundTrips negative m q d ∧
      (-6 < d.point ↔ nearestPlace 6 ≤ magnitude m q) ∧
      (-4 < d.point ↔ nearestPlace 4 ≤ magnitude m q) ∧
      (21 < d.point ↔ 10 ^ 21 ≤ magnitude m q) ∧
      ((Value.float x).display = String.ofList (signText negative ++ standard d) ↔
        (magnitude m q < nearestPlace 6 ∨ nearestPlace 4 ≤ magnitude m q) ∧
          ∀ k : Nat, magnitude m q = k → k < 10 ^ 21 → d.value = k) ∧
      (nearestPlace 6 ≤ magnitude m q → magnitude m q < nearestPlace 4 →
        (Value.float x).display = String.ofList (signText negative ++
          exponentForm (numeral d.coefficient) (d.point - 1))) ∧
      ∀ k : Nat, magnitude m q = k → k < 10 ^ 21 →
        (Value.float x).display = String.ofList (signText negative ++ numeral k) ∧
          (k < 2 ^ 53 → d.value = k) := by
  have hv := isNormal_of_decode hx
  have hsix : -6 < (shortest binary64 m q).point ↔ nearestPlace 6 ≤ magnitude m q :=
    lt_point_iff_nearestPlace hm hv (by decide)
  have hfour : -4 < (shortest binary64 m q).point ↔ nearestPlace 4 ≤ magnitude m q :=
    lt_point_iff_nearestPlace hm hv (by decide)
  have htwentyone : 21 < (shortest binary64 m q).point ↔ 10 ^ 21 ≤ magnitude m q :=
    lt_point_iff_pow hm hv (by decide)
  refine ⟨roundTrips_shortest hm hv negative, hsix, hfour, htwentyone, ?_, ?_, ?_⟩
  · rw [← not_le, ← hsix, ← hfour, not_lt]
    exact displayFloat_eq_standard_iff hx hm
  · intro hfrom hto
    rw [← hsix] at hfrom
    rw [← not_le, ← hfour, not_lt] at hto
    have hlimit : ∀ k : Nat, magnitude m q = k → plainIntegerLimit ≤ k := by
      intro k hk
      have hpoint := point_pos_of_whole hm hv hk
      omega
    have htext := displayFloat_of_not_plain hx hm hlimit
    rw [layout_displayStyle_of_far (.inl hto)] at htext
    exact htext
  · intro k hk hlimit
    exact ⟨displayFloat_of_whole hx hm hk hlimit, value_shortest_of_small hm hv hk⟩

/-- A third, below zero. -/
theorem display_is_standard_iff_third :
    let x := nearest binary64 true 1 3
    decode x = .finite true 6004799503160661 (-54) ∧ 0 < 6004799503160661 ∧
      RoundTrips true 6004799503160661 (-54) (shortest binary64 6004799503160661 (-54)) ∧
      (Value.float x).display = String.ofList (signText true ++
        standard (shortest binary64 6004799503160661 (-54))) := by
  intro x
  have hx : decode x = .finite true 6004799503160661 (-54) := by decide
  obtain ⟨htrips, -, hfour, -, hstandard, -, hwhole⟩ :=
    display_is_standard_iff x true 6004799503160661 (-54) hx (by decide)
  refine ⟨hx, by decide, htrips, hstandard.mpr ⟨.inr (hfour.mp (by decide)), ?_⟩⟩
  intro k hk hlimit
  apply (hwhole k hk hlimit).2
  have hsmall : (k : ℚ) < 2 ^ 53 := by
    rw [← hk]
    norm_num [magnitude]
  exact_mod_cast hsmall

/-- One at the fifth place behind the point has an exponent on display. -/
theorem display_leaves_standard :
    ¬ ∀ (x : Float) (negative : Bool) (m : Nat) (q : Int), decode x = .finite negative m q → 0 < m →
      (Value.float x).display =
        String.ofList (signText negative ++ standard (shortest binary64 m q)) := by
  intro h
  have hx : decode (nearest binary64 false 1 (10 ^ 5)) =
      .finite false 5902958103587057 (-69) := rfl
  have hdisplay : (Value.float (nearest binary64 false 1 (10 ^ 5))).display = "1e-5" := rfl
  have hstandard : String.ofList (signText false ++
      standard (shortest binary64 5902958103587057 (-69))) = "0.00001" := rfl
  have hsame := h _ false 5902958103587057 (-69) hx (by decide)
  rw [hdisplay, hstandard] at hsame
  exact absurd hsame (by decide)

end Value

end Formulary
