import Formulary.Decimal.Numeral
import Formulary.Proofs.Expr.Parsing
import Mathlib.Algebra.Order.Ring.Nat
import Mathlib.Data.List.TakeWhile
import Mathlib.Tactic.Ring

/-!
# Integers that are read

An integer that is read has no more digits than may be written, and the numeral of such an integer is read
as it.
-/

namespace Formulary

namespace Text

/-- A text of visible plain characters is in plain form. -/
theorem plainNumeral_eq_toList {s : String}
    (h : ∀ c ∈ s.toList, c.toNat < 127 ∧ isPlainSpace c = false) : plainNumeral s = s.toList := by
  have hmap : s.toList.map plainChar = s.toList := by
    calc s.toList.map plainChar
      _ = s.toList.map id := List.map_congr_left fun c hc => if_pos (h c hc).1
      _ = s.toList := List.map_id _
  have hdrop : ∀ cs : List Char, (∀ c ∈ cs, isPlainSpace c = false) →
      cs.dropWhile isPlainSpace = cs := by
    intro cs hcs
    cases cs with
    | nil => rfl
    | cons c cs => exact List.dropWhile_cons_of_neg (by simp [hcs c])
  rw [plainNumeral, hmap, hdrop _ fun c hc => (h c hc).2, hdrop, List.reverse_reverse]
  intro c hc
  exact (h c (List.mem_reverse.mp hc)).2

end Text

namespace Decimal

theorem isDigit_of_ungroup {cs ds : List Char} (hcs : ∀ c ∈ cs, c.isDigit = true ∨ c = '_')
    (h : ungroup cs = some ds) : ∀ c ∈ ds, c.isDigit = true := by
  fun_induction ungroup cs generalizing ds with
  | case1 =>
    cases h
    exact nofun
  | case2 | case4 | case5 => cases h
  | case3 c d rest hc hdigits ih =>
    obtain ⟨es, hes, rfl⟩ := Option.map_eq_some_iff.mp h
    have hrest := ih (fun b hb => hcs b (List.mem_cons_of_mem c (List.mem_cons_of_mem '_' hb))) hes
    intro b hb
    rcases List.mem_cons.mp hb with rfl | hb
    · exact hdigits.1
    · exact hrest b hb
  | case6 c rest hc _ _ ih =>
    obtain ⟨es, hes, rfl⟩ := Option.map_eq_some_iff.mp h
    have hrest := ih (fun b hb => hcs b (List.mem_cons_of_mem c hb)) hes
    intro b hb
    rcases List.mem_cons.mp hb with rfl | hb
    · exact (hcs b List.mem_cons_self).resolve_right hc
    · exact hrest b hb

theorem foldl_digits_lt {ds : List Char} (h : ∀ c ∈ ds, c.isDigit = true) (n : Nat) :
    ds.foldl (fun n c => 10 * n + (if c.isDigit then c.toNat - '0'.toNat
      else c.toLower.toNat - 'a'.toNat + 10)) n < (n + 1) * 10 ^ ds.length := by
  induction ds generalizing n with
  | nil => simp
  | cons c rest ih =>
    have hc := h c List.mem_cons_self
    have hrest := ih (fun d hd => h d (List.mem_cons_of_mem c hd)) (10 * n + (c.toNat - '0'.toNat))
    have hnine : c.toNat ≤ 57 := (Char.isDigit_iff_toNat.mp hc).2
    have hzero : '0'.toNat = 48 := rfl
    rw [List.foldl_cons, if_pos hc]
    calc
      _ < (10 * n + (c.toNat - '0'.toNat) + 1) * 10 ^ rest.length := hrest
      _ ≤ 10 * (n + 1) * 10 ^ rest.length := Nat.mul_le_mul_right _ (by omega)
      _ = (n + 1) * 10 ^ (c :: rest).length := by rw [List.length_cons, Nat.pow_succ]; ring

theorem ofDigits_lt {ds : List Char} {count : Nat} (h : ∀ c ∈ ds, c.isDigit = true)
    (hlength : ds.length ≤ count) : ofDigits 10 ds < Nat.pow 10 count := by
  have hlt := foldl_digits_lt h 0
  rw [Nat.zero_add, Nat.one_mul] at hlt
  exact lt_of_lt_of_le hlt (Nat.pow_le_pow_right (by decide) hlength)

/-- An integer that is read has no more digits than may be written. -/
theorem natAbs_readInt {s : String} {n : Int} (h : readInt s = .ok n) :
    n.natAbs < Nat.pow 10 maxIntegerDigits := by
  unfold readInt at h
  dsimp only at h
  split at h
  · cases h
  · cases h
  · rename_i ds _ hds
    split at h
    · cases h
    · rename_i hlength
      split at h
      · cases h
      · have hdigits : ∀ d ∈ ds, d.isDigit = true := by
          refine isDigit_of_ungroup (fun c hc => ?_) hds
          simpa using List.mem_takeWhile_imp hc
        have hlt : ofDigits 10 ds < Nat.pow 10 maxIntegerDigits :=
          ofDigits_lt hdigits (Nat.le_of_not_lt hlength)
        rw [← Except.ok.inj h]
        split
        · rwa [Int.natAbs_neg, Int.natAbs_natCast]
        · rwa [Int.natAbs_natCast]

/-! ## Numerals read back -/

variable {ds : List Char}

theorem ungroup_digits (h : ∀ c ∈ ds, c.isDigit = true) : ungroup ds = some ds := by
  have hne : ∀ c ∈ ds, c ≠ '_' := by
    rintro c hc rfl
    exact absurd (h _ hc) (by decide)
  fun_induction ungroup ds with
  | case1 => rfl
  | case2 => exact absurd rfl (hne '_' List.mem_cons_self)
  | case3 => exact absurd rfl (hne '_' (List.mem_cons_of_mem _ List.mem_cons_self))
  | case4 => exact absurd rfl (hne '_' (List.mem_cons_of_mem _ List.mem_cons_self))
  | case5 => exact absurd rfl (hne '_' (List.mem_cons_of_mem _ List.mem_cons_self))
  | case6 c rest _ _ _ ih =>
    rw [ih (fun d hd => h d (List.mem_cons_of_mem c hd)) fun d hd => hne d (List.mem_cons_of_mem c hd)]
    rfl

/-- The sign of a negative integer. -/
def signText (negative : Bool) : List Char := if negative then ['-'] else []

theorem toString_int (n : Int) :
    toString n = String.ofList (signText (n < 0) ++ Nat.toDigits 10 n.natAbs) := by
  cases n with
  | ofNat k =>
    rw [signText, if_neg (by simp)]
    exact Nat.toString_eq_ofList_toDigits
  | negSucc k =>
    rw [signText, if_pos (by simp [Int.negSucc_lt_zero]), String.ofList_append]
    show "-" ++ toString (k + 1) = _
    rw [Nat.toString_eq_ofList_toDigits]
    rfl

theorem splitSign_digits (h : ∀ c ∈ ds, c.isDigit = true) (negative : Bool) :
    splitSign (signText negative ++ ds) = (negative, ds) := by
  cases negative
  · rw [signText, if_neg Bool.false_ne_true, List.nil_append]
    unfold splitSign
    split
    · exact absurd (h _ List.mem_cons_self) (by decide)
    · exact absurd (h _ List.mem_cons_self) (by decide)
    · rfl
  · rfl

theorem readInt_of_digits {s : String} {negative : Bool}
    (hs : Text.plainNumeral s = signText negative ++ ds) (hne : ds ≠ [])
    (h : ∀ c ∈ ds, c.isDigit = true) (hcount : ds.length ≤ maxIntegerDigits) :
    readInt s = .ok (if negative then -(ofDigits 10 ds : Int) else ofDigits 10 ds) := by
  have htake : ds.takeWhile (fun c => c.isDigit || c == '_') = ds :=
    List.takeWhile_eq_self_iff.mpr fun c hc => by rw [h c hc, Bool.true_or]
  unfold readInt
  rw [hs, splitSign_digits h]
  dsimp only
  rw [htake, ungroup_digits h]
  obtain ⟨c, cs, rfl⟩ := List.exists_cons_of_ne_nil hne
  dsimp only
  rw [if_neg (Nat.not_lt_of_le hcount), if_neg (Nat.lt_irrefl _)]

theorem plainNumeral_toString (n : Int) :
    Text.plainNumeral (toString n) = signText (n < 0) ++ Nat.toDigits 10 n.natAbs := by
  rw [Text.plainNumeral_eq_toList, toString_int, String.toList_ofList]
  intro c hc
  rw [toString_int, String.toList_ofList, List.mem_append] at hc
  rcases hc with hsign | hdigit
  · obtain rfl : c = '-' := by
      rw [signText] at hsign
      split at hsign
      · exact List.mem_singleton.mp hsign
      · contradiction
    decide
  · have hc := Text.isDigit_iff.mp (Text.isDigit_of_mem_numeral hdigit)
    refine ⟨by omega, ?_⟩
    simp only [Text.isPlainSpace, Bool.or_eq_false_iff, Bool.and_eq_false_iff,
      decide_eq_false_iff_not, beq_eq_false_iff_ne]
    omega

theorem readInt_toString {n : Int}
    (h : (Nat.toDigits 10 n.natAbs).length ≤ maxIntegerDigits) : readInt (toString n) = .ok n := by
  rw [readInt_of_digits (plainNumeral_toString n) Nat.toDigits_ne_nil
    (fun c hc => Text.isDigit_of_mem_numeral hc) h, Expr.ofDigits_numeral]
  by_cases hneg : n < 0
  · rw [decide_eq_true hneg, if_pos rfl]
    congr 1
    omega
  · rw [decide_eq_false hneg, if_neg Bool.false_ne_true]
    congr 1
    omega

end Decimal

end Formulary
