import Formulary.Text.Blank
import Formulary.Text.Compose
import Formulary.Text.Identifier
import Mathlib.Data.List.TakeWhile

/-!
# Plain characters

The letters and digits of ASCII and the underscore: what names and canonical numerals are made of.
-/

namespace Formulary.Text

/-- A letter, digit or underscore of ASCII. -/
def isPlainChar (c : Char) : Bool := c.isAlphanum || c == '_'

/-- Plain characters, with no digit in front. -/
def isPlainName : List Char → Bool
  | [] => false
  | c :: cs => !c.isDigit && (c :: cs).all isPlainChar

variable {c d : Char}

theorem ne_of_isPlainChar (hc : isPlainChar c = true) (hd : isPlainChar d = false) : c ≠ d := by
  rintro rfl
  exact Bool.noConfusion (hc.symm.trans hd)

theorem isPlainChar_of_isDigit (h : c.isDigit = true) : isPlainChar c = true := by
  simp [isPlainChar, Char.isAlphanum, h]

theorem isUpper_iff : c.isUpper = true ↔ 65 ≤ c.toNat ∧ c.toNat ≤ 90 :=
  decide_eq_true_iff

theorem isLower_iff : c.isLower = true ↔ 97 ≤ c.toNat ∧ c.toNat ≤ 122 := by
  change (decide (97 ≤ c.toNat) && decide (c.toNat ≤ 122)) = true ↔ _
  rw [Bool.and_eq_true, decide_eq_true_iff, decide_eq_true_iff]

theorem isDigit_iff : c.isDigit = true ↔ 48 ≤ c.toNat ∧ c.toNat ≤ 57 :=
  Char.isDigit_iff_toNat

theorem isAlpha_iff : c.isAlpha = true ↔ c.isUpper = true ∨ c.isLower = true :=
  Iff.of_eq (Bool.or_eq_true c.isUpper c.isLower)

theorem toNat_lt_of_isPlainChar (h : isPlainChar c = true) : c.toNat < 128 := by
  simp only [isPlainChar, Char.isAlphanum, Bool.or_eq_true, isAlpha_iff, isUpper_iff, isLower_iff,
    isDigit_iff, beq_iff_eq] at h
  rcases h with h | rfl
  · omega
  · decide

theorem isBlank_of_isPlainChar (h : isPlainChar c = true) : isBlank c = false := by
  have hall : ∀ n < 128, isPlainChar (Char.ofNat n) = true → isBlank (Char.ofNat n) = false := by
    decide +kernel
  have hblank := hall c.toNat (toNat_lt_of_isPlainChar h)
  rw [Char.ofNat_toNat] at hblank
  exact hblank h

theorem isAlpha_or_of_isPlainChar (h : isPlainChar c = true) (hdigit : c.isDigit = false) :
    (c.isAlpha || c == '_') = true := by
  simpa [isPlainChar, Char.isAlphanum, hdigit] using h

theorem isIdentifierPart_of_isPlainChar (h : isPlainChar c = true) :
    isIdentifierPart c = true := by
  rw [isIdentifierPart, if_pos (toNat_lt_of_isPlainChar h)]
  exact h

theorem isAlpha_eq_false_of_isDigit (h : c.isDigit = true) : c.isAlpha = false := by
  rw [isDigit_iff] at h
  refine Bool.eq_false_iff.mpr fun halpha => ?_
  rw [isAlpha_iff, isUpper_iff, isLower_iff] at halpha
  omega

theorem isPlainName_iff {cs : List Char} :
    isPlainName cs = true ↔
      ∃ c rest, cs = c :: rest ∧ c.isDigit = false ∧ ∀ d ∈ cs, isPlainChar d = true := by
  cases cs with
  | nil => simp [isPlainName]
  | cons c rest => simp [isPlainName]

theorem isIdentifier_iff {cs : List Char} :
    isIdentifier cs = true ↔ ∃ c rest, cs = c :: rest ∧ isIdentifierStart c = true ∧
      ∀ d ∈ rest, isIdentifierPart d = true := by
  cases cs with
  | nil => simp [isIdentifier]
  | cons c rest =>
    rw [isIdentifier, Bool.and_eq_true, List.all_eq_true]
    constructor
    · exact fun h => ⟨c, rest, rfl, h⟩
    · rintro ⟨_, _, ⟨⟩, h⟩
      exact h

theorem isIdentifier_of_isPlainName {cs : List Char} (h : isPlainName cs = true) :
    isIdentifier cs = true := by
  obtain ⟨c, rest, rfl, hdigit, hplain⟩ := isPlainName_iff.mp h
  refine isIdentifier_iff.mpr ⟨c, rest, rfl, ?_, fun d hd => ?_⟩
  · have hc : isPlainChar c = true := hplain c List.mem_cons_self
    rw [isIdentifierStart, if_pos (toNat_lt_of_isPlainChar hc)]
    exact isAlpha_or_of_isPlainChar hc hdigit
  · exact isIdentifierPart_of_isPlainChar (hplain d (List.mem_cons_of_mem c hd))

theorem identifierLength_of_isIdentifier {cs : List Char} (h : isIdentifier cs = true) :
    identifierLength cs = cs.length := by
  obtain ⟨c, rest, rfl, hstart, hparts⟩ := isIdentifier_iff.mp h
  rw [identifierLength, if_pos hstart, List.takeWhile_eq_self_iff.mpr hparts, List.length_cons,
    Nat.add_comm]

/-- A plain name is in composed form. -/
theorem normalize_of_isPlainName {cs : List Char} (h : isPlainName cs = true) :
    normalize (String.ofList cs) = String.ofList cs := by
  obtain ⟨-, -, -, -, hplain⟩ := isPlainName_iff.mp h
  have hall : (String.ofList cs).toList.all (·.toNat < 128) = true := by
    rw [String.toList_ofList, List.all_eq_true]
    exact fun d hd => decide_eq_true (toNat_lt_of_isPlainChar (hplain d hd))
  rw [normalize, if_pos hall]

/-! ## Canonical numerals -/

theorem isDigit_of_mem_numeral {n : Nat} (h : c ∈ Nat.toDigits 10 n) : c.isDigit = true :=
  Nat.isDigit_of_mem_toDigits (by decide) (by decide) h

theorem isPlainChar_of_mem_numeral {n : Nat} (h : c ∈ Nat.toDigits 10 n) : isPlainChar c = true :=
  isPlainChar_of_isDigit (isDigit_of_mem_numeral h)

/-- A canonical numeral that starts with a zero is that of zero. -/
theorem eq_zero_of_head?_numeral {n : Nat} (h : (Nat.toDigits 10 n).head? = some '0') : n = 0 := by
  induction n using Nat.strongRecOn with
  | ind n ih =>
    rcases Nat.lt_or_ge n 10 with hlt | hge
    · rw [Nat.toDigits_of_lt_base hlt] at h
      simpa using h
    · rw [Nat.toDigits_of_base_le (by decide) hge, List.head?_append,
        List.head?_eq_some_head Nat.toDigits_ne_nil, Option.some_or,
        ← List.head?_eq_some_head Nat.toDigits_ne_nil] at h
      have := ih (n / 10) (by omega) h
      omega

end Formulary.Text
