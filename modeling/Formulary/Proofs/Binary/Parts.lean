import Formulary.Binary.Decode
import Mathlib.Algebra.Ring.Nat

/-!
# The parts of doubles

What the bits of a double decode to is what its arithmetic works on. Comparison with zero and division
by zero are read off the decoded parts, and a double put together from parts decodes to them.
-/

namespace Formulary.Binary

open Float.Model.UnpackedFloat

/-! ## The fields of the bits -/

/-- The bits of a double. -/
abbrev Word := BitVec Float.Model.Format.binary64.numBits

theorem toNat_unpackMantissa (b : Word) : (unpackMantissa b).toNat = b.toNat % 2 ^ 52 := by
  unfold unpackMantissa
  simp

theorem toNat_unpackExponent (b : Word) :
    (unpackExponent b).toNat = b.toNat / 2 ^ 52 % 2 ^ 11 := by
  unfold unpackExponent
  simp [Nat.shiftRight_eq_div_pow]

theorem toNat_unpackSign (b : Word) : (unpackSign b).toNat = b.toNat / 2 ^ 63 := by
  have hlt : b.toNat < 2 ^ 64 := b.isLt
  unfold unpackSign
  simp [Nat.shiftRight_eq_div_pow]
  omega

/-- The sign as the arithmetic of floats has it. -/
def signOf (negative : Bool) : Sign := if negative then .negative else .positive

/-- The parts as the arithmetic of floats has them. -/
def Decoded.unpacked : Decoded → Float.Model.UnpackedFloat
  | .nan => .notANumber
  | .infinite negative => .infinity (signOf negative)
  | .finite negative 0 _ => .zero (signOf negative)
  | .finite negative (m + 1) q => .finite (signOf negative) (m + 1) q m.succ_pos

theorem unpackMantissa_eq_zero_iff (b : Word) : unpackMantissa b = 0#_ ↔ b.toNat % 2 ^ 52 = 0 := by
  rw [← BitVec.toNat_inj, toNat_unpackMantissa]; rfl

theorem unpackExponent_eq_zero_iff (b : Word) :
    unpackExponent b = 0#_ ↔ b.toNat / 2 ^ 52 % 2 ^ 11 = 0 := by
  rw [← BitVec.toNat_inj, toNat_unpackExponent]; rfl

theorem unpackExponent_eq_ones_iff (b : Word) :
    unpackExponent b = -1#_ ↔ b.toNat / 2 ^ 52 % 2 ^ 11 = 2047 := by
  rw [← BitVec.toNat_inj, toNat_unpackExponent]; rfl

theorem ofBitVec_unpackSign (b : Word) :
    Sign.ofBitVec (unpackSign b) = signOf (decide (2 ^ 63 ≤ b.toNat)) := by
  have hlt : b.toNat < 2 ^ 64 := b.isLt
  have hzero : unpackSign b = 0#1 ↔ b.toNat < 2 ^ 63 := by
    rw [← BitVec.toNat_inj, toNat_unpackSign]
    simp
  rw [Sign.ofBitVec, signOf]
  by_cases h : b.toNat < 2 ^ 63
  · rw [if_pos (hzero.mpr h), if_neg (by simpa using h)]
  · rw [if_neg (mt hzero.mp h), if_pos (by simpa using h)]

theorem toNat_one_append (m : BitVec 52) : (1#1 ++ m).toNat = 2 ^ 52 + m.toNat := by
  rw [BitVec.toNat_append, ← Nat.shiftLeft_add_eq_or_of_lt m.isLt]
  rfl

theorem unpacked_finite {negative : Bool} {m : Nat} {q : Int} (h : 0 < m) :
    (Decoded.finite negative m q).unpacked = .finite (signOf negative) m q h := by
  cases m with
  | zero => exact absurd h (Nat.lt_irrefl 0)
  | succ => rfl

theorem unpack_eq (x : Float) : x.toModel.unpack = (decode x).unpacked := by
  have hbits : x.toBits.toNat = x.toModel.toBits.toBitVec.toNat := rfl
  rw [decode]
  simp only [hbits, Nat.pow_eq]
  unfold Float.Model.unpack Float.Model.UnpackedFloat.unpack
  generalize x.toModel.toBits.toBitVec = b
  dsimp only
  rw [ofBitVec_unpackSign]
  -- an exponent of ones is not finite, one of zeros has no leading bit, and all others have one
  by_cases hones : b.toNat / 2 ^ 52 % 2 ^ 11 = 2047
  · rw [if_pos hones, if_pos ((unpackExponent_eq_ones_iff b).mpr hones)]
    by_cases hfraction : b.toNat % 2 ^ 52 = 0
    · rw [if_pos hfraction, if_pos ((unpackMantissa_eq_zero_iff b).mpr hfraction)]; rfl
    · rw [if_neg hfraction, if_neg (mt (unpackMantissa_eq_zero_iff b).mp hfraction)]; rfl
  · rw [if_neg hones, if_neg (mt (unpackExponent_eq_ones_iff b).mp hones)]
    by_cases hzero : b.toNat / 2 ^ 52 % 2 ^ 11 = 0
    · rw [if_pos hzero, if_pos ((unpackExponent_eq_zero_iff b).mpr hzero)]
      by_cases hfraction : b.toNat % 2 ^ 52 = 0
      · rw [dif_pos ((unpackMantissa_eq_zero_iff b).mpr hfraction), hfraction]; rfl
      · rw [dif_neg (mt (unpackMantissa_eq_zero_iff b).mp hfraction),
          unpacked_finite (Nat.pos_of_ne_zero hfraction)]
        congr 1
        rw [toNat_unpackExponent, hzero]; rfl
    · rw [if_neg hzero, if_neg (mt (unpackExponent_eq_zero_iff b).mp hzero),
        unpacked_finite (Nat.add_pos_left (Nat.two_pow_pos 52) _)]
      congr 1
      · rw [toNat_one_append, toNat_unpackMantissa]
      · rw [toNat_unpackExponent]; rfl

/-! ## Floats from their bits -/

theorem toBitVec_ofBitVec (v : BitVec 1) : (Sign.ofBitVec v).toBitVec = v := by
  revert v; decide

theorem packComponents_unpack (b : Word) :
    packComponents Float.Model.Format.binary64 (Sign.ofBitVec (unpackSign b)) (unpackExponent b)
      (unpackMantissa b) = b := by
  have hhigh : b.extractLsb' 63 1 ++ b.extractLsb' 52 11 = b.extractLsb' 52 12 :=
    BitVec.extractLsb'_append_extractLsb'_eq_extractLsb' rfl
  have hjoin : b.extractLsb' 63 1 ++ b.extractLsb' 52 11 ++ b.extractLsb' 0 52 = b := by
    rw [hhigh, BitVec.extractLsb'_append_extractLsb'_eq_extractLsb' (Nat.zero_add 52).symm]
    exact BitVec.extractLsb'_eq_self
  unfold packComponents
  rw [toBitVec_ofBitVec]
  exact hjoin

theorem pack_subnormal {s : Sign} {m : Nat} (h : 0 < m) (hm : m < 2 ^ 52) :
    pack Float.Model.Format.binary64 (.finite s m (-1074) h) =
      packComponents Float.Model.Format.binary64 s 0#_ (BitVec.ofNat _ m) := by
  have hlog : m.log2 < 52 := (Nat.log2_lt (Nat.ne_of_gt h)).mpr hm
  have hplace : m.log2 + 1 ≠ Float.Model.Format.binary64.mantissaBits := by
    show m.log2 + 1 ≠ 53
    omega
  unfold pack
  dsimp only
  rw [if_neg hplace]
  rfl

theorem pack_normal {s : Sign} {m field : Nat} {q : Int} (h : 0 < m) (hlow : 2 ^ 52 ≤ m)
    (hhigh : m < 2 ^ 53) (hq : q = (field : Int) - 1075) (hfield : field < 2047) :
    pack Float.Model.Format.binary64 (.finite s m q h) =
      packComponents Float.Model.Format.binary64 s (BitVec.ofNat _ field) (BitVec.ofNat _ m) := by
  have hlog : m.log2 = 52 := (Nat.log2_eq_iff (Nat.ne_of_gt h)).mpr ⟨hlow, hhigh⟩
  have hbiased : (q + Float.Model.Format.binary64.exponentBias +
      Float.Model.Format.binary64.mantissaBitsWithoutImplicit).toNat = field := by
    show (q + 1023 + 52).toNat = field
    omega
  have hplace : m.log2 + 1 = Float.Model.Format.binary64.mantissaBits := by rw [hlog]; rfl
  have hrange : ¬ 2 ^ Float.Model.Format.binary64.exponentBits ≤ field + 1 := by
    show ¬ 2 ^ 11 ≤ field + 1
    omega
  unfold pack
  dsimp only
  rw [hbiased, if_neg hrange, if_pos hplace]

theorem pack_unpack {b : Word} (h : b.toNat / 2 ^ 52 % 2 ^ 11 ≠ 2047) :
    pack Float.Model.Format.binary64 (unpack Float.Model.Format.binary64 b) = b := by
  have hfraction : (unpackMantissa b).toNat < 2 ^ 52 := (unpackMantissa b).isLt
  have hself := packComponents_unpack b
  unfold unpack
  dsimp only
  rw [if_neg (mt (unpackExponent_eq_ones_iff b).mp h)]
  by_cases hzero : unpackExponent b = 0#_
  · rw [if_pos hzero]
    rw [hzero] at hself
    by_cases hm : unpackMantissa b = 0#_
    · rw [dif_pos hm]
      rw [hm] at hself
      exact hself
    · rw [dif_neg hm]
      have hpos : 0 < (unpackMantissa b).toNat :=
        Nat.pos_of_ne_zero (mt (fun h => BitVec.eq_of_toNat_eq h) hm)
      have hq : ((unpackExponent b).toNat : Int) - (Float.Model.Format.binary64.exponentBias +
          Float.Model.Format.binary64.mantissaBitsWithoutImplicit) + 1 = -1074 := by
        rw [hzero]; rfl
      rw [hq, pack_subnormal hpos hfraction, BitVec.ofNat_toNat]
      simpa using hself
  · rw [if_neg hzero]
    have hfield : (unpackExponent b).toNat < 2047 := by
      rw [toNat_unpackExponent]
      omega
    have hone := toNat_one_append (unpackMantissa b)
    refine (pack_normal _ (by omega) (by omega) rfl hfield).trans ?_
    rw [hone, BitVec.ofNat_toNat, BitVec.ofNat_add, BitVec.ofNat_toNat]
    simpa using hself

theorem toNat_toBits_ofBits {k : Nat} (hk : k < 2 ^ 64) (h : k / 2 ^ 52 % 2 ^ 11 ≠ 2047) :
    (Float.ofBits (.ofNat k)).toBits.toNat = k := by
  have hword : (UInt64.ofNat k).toBitVec.toNat = k := UInt64.toNat_ofNat_of_lt' hk
  have hpack : (Float.ofBits (.ofNat k)).toBits =
    UInt64.ofBitVec (pack Float.Model.Format.binary64 (unpack Float.Model.Format.binary64
      (UInt64.ofNat k).toBitVec)) := rfl
  rw [hpack, pack_unpack (by rwa [hword])]
  exact hword

/-- The significands and exponents of finite doubles. -/
def IsNormal (m : Nat) (q : Int) : Prop :=
  (m < 2 ^ 52 ∧ q = -1074) ∨ (2 ^ 52 ≤ m ∧ m < 2 ^ 53 ∧ -1074 ≤ q ∧ q ≤ 971)

theorem signBits_cases (negative : Bool) :
    (negative = false ∧ signBits negative = 0) ∨ (negative = true ∧ signBits negative = 2 ^ 63) := by
  cases negative
  · exact .inl ⟨rfl, rfl⟩
  · exact .inr ⟨rfl, rfl⟩

theorem decode_ofBits {negative : Bool} {field fraction : Nat} (hfield : field < 2047)
    (hfraction : fraction < 2 ^ 52) :
    decode (Float.ofBits (.ofNat (signBits negative + (field * 2 ^ 52 + fraction)))) =
      if field = 0 then .finite negative fraction (-1074)
      else .finite negative (2 ^ 52 + fraction) (field - 1075) := by
  have hsign := signBits_cases negative
  generalize hk : signBits negative + (field * 2 ^ 52 + fraction) = k
  have hpart : k / 2 ^ 52 % 2 ^ 11 = field := by omega
  have hrest : k % 2 ^ 52 = fraction := by omega
  have hnegative : decide (2 ^ 63 ≤ k) = negative := by
    rcases hsign with ⟨rfl, h⟩ | ⟨rfl, h⟩
    · exact decide_eq_false (by omega)
    · exact decide_eq_true (by omega)
  rw [decode, toNat_toBits_ofBits (by omega) (by omega)]
  simp only [Nat.pow_eq, hpart, hrest, hnegative]
  rw [if_neg (by omega)]

theorem decode_encode {negative : Bool} {m : Nat} {q : Int} (h : IsNormal m q) :
    decode (encode negative m q) = .finite negative m q := by
  rcases h with ⟨hm, rfl⟩ | ⟨hlow, hhigh, hq⟩
  · have hbits : decode (Float.ofBits (.ofNat (signBits negative + (0 * 2 ^ 52 + m)))) = _ :=
      decode_ofBits (by decide) hm
    rw [Nat.zero_mul, Nat.zero_add, if_pos rfl] at hbits
    simpa only [encode, Nat.pow_eq, if_pos hm] using hbits
  · have hbits : decode (Float.ofBits (.ofNat (signBits negative +
        ((q + 1075).toNat * 2 ^ 52 + (m - 2 ^ 52))))) = _ :=
      decode_ofBits (by omega) (by omega)
    have hfield : (q + 1075).toNat ≠ 0 := by omega
    have hsmall : ¬ m < 2 ^ 52 := by omega
    have htop : m ≠ 2 ^ 53 := by omega
    rw [if_neg hfield, show 2 ^ 52 + (m - 2 ^ 52) = m by omega,
      show ((q + 1075).toNat : Int) - 1075 = q by omega] at hbits
    simpa only [encode, Nat.pow_eq, if_neg hsmall, if_neg htop] using hbits

/-! ## Zero and its sides -/

/-- Where a real lies: nowhere, at one of the two zeros, or on a side of them. -/
inductive Side where
  | undefined
  | zero (negative : Bool)
  | nonzero (negative : Bool)
deriving DecidableEq, Repr

def Decoded.side : Decoded → Side
  | .nan => .undefined
  | .infinite negative => .nonzero negative
  | .finite negative 0 _ => .zero negative
  | .finite negative (_ + 1) _ => .nonzero negative

/-- What a real is divided by a zero of a sign: an infinity with the product of the signs, unless it is
zero itself. -/
def Side.overZero (divisor : Bool) : Side → Float
  | .undefined | .zero _ => nan
  | .nonzero negative => infinity (negative != divisor)

variable {x y : Float} {negative : Bool}

theorem decode_zero : decode 0 = .finite false 0 (-1074) := by decide +kernel

theorem beq_zero_iff : (x == 0) = true ↔ ∃ negative, (decode x).side = .zero negative := by
  have h : (x == 0) = (decode x).unpacked.beq (decode 0).unpacked := by
    rw [← unpack_eq, ← unpack_eq]; rfl
  rw [h, decode_zero]
  cases decode x with
  | nan => simp [Decoded.side]; rfl
  | infinite negative => cases negative <;> simp [Decoded.side] <;> rfl
  | finite negative m q =>
    cases m with
    | zero => simp [Decoded.side]; rfl
    | succ => cases negative <;> simp [Decoded.side] <;> rfl

theorem isNaN_iff : x.isNaN = true ↔ (decode x).side = .undefined := by
  have h : x.isNaN = (decode x).unpacked.isNaN := by
    rw [← unpack_eq]; rfl
  rw [h]
  cases decode x with
  | nan => exact iff_of_true rfl rfl
  | infinite => exact iff_of_false Bool.false_ne_true (by simp [Decoded.side])
  | finite negative m q =>
    cases m <;> exact iff_of_false Bool.false_ne_true (by simp [Decoded.side])

theorem isNegative_of_side
    (h : (decode x).side = .zero negative ∨ (decode x).side = .nonzero negative) :
    isNegative x = negative := by
  rw [isNegative]
  cases hx : decode x with
  | nan => simp [hx, Decoded.side] at h
  | infinite => simp_all [Decoded.side]
  | finite s m q => cases m <;> simp_all [Decoded.side]

/-! ## Division by zero -/

theorem ofModel_pack_nan : Float.ofModel (.pack .notANumber) = nan := by decide +kernel

theorem ofModel_pack_infinity (negative : Bool) :
    Float.ofModel (.pack (.infinity (signOf negative))) = infinity negative := by
  cases negative <;> decide +kernel

theorem signOf_div (a b : Bool) : signOf a / signOf b = signOf (a != b) := by
  cases a <;> cases b <;> rfl

theorem unpacked_of_zero {d : Decoded} (h : d.side = .zero negative) :
    d.unpacked = .zero (signOf negative) := by
  cases d with
  | nan => simp [Decoded.side] at h
  | infinite => simp [Decoded.side] at h
  | finite s m q => cases m <;> simp_all [Decoded.side, Decoded.unpacked]

theorem div_zero (h : (decode y).side = .zero negative) :
    x / y = (decode x).side.overZero negative := by
  have hdiv : x / y = .ofModel (.pack (.div Float.Model.Format.binary64 (decode x).unpacked
      (decode y).unpacked)) := by
    rw [← unpack_eq, ← unpack_eq]; rfl
  rw [hdiv, unpacked_of_zero h]
  cases decode x with
  | nan => exact ofModel_pack_nan
  | infinite s =>
    rw [Decoded.side, Side.overZero, ← ofModel_pack_infinity, ← signOf_div]
    rfl
  | finite s m q =>
    cases m with
    | zero => exact ofModel_pack_nan
    | succ m =>
      rw [Decoded.side, Side.overZero, ← ofModel_pack_infinity, ← signOf_div]
      rfl

end Formulary.Binary
