import Formulary.Value.Call
import Mathlib.Data.Int.ModEq
import Mathlib.Tactic.Linarith

/-!
# Machine integers

A magnitude is a machine integer as soon as the integer has a 64-bit type, and what is computed with it
from then on is reduced to the range of that type. Sums and products of machine integers and plain ones
are taken apart here: a plain integer has to be in range itself, and the exact result is reduced.
-/

namespace Formulary

namespace Width

variable {w : Width} {m n : Int}

theorem wrap_modEq (w : Width) (n : Int) : w.wrap n ≡ n [ZMOD w.size] := by
  unfold wrap
  split
  · exact Int.bmod_emod
  · exact Int.mod_modEq n w.size

theorem wrap_congr (h : m ≡ n [ZMOD w.size]) : w.wrap m = w.wrap n := by
  have hmod : m % w.size = n % w.size := h
  unfold wrap
  split
  · rw [← Int.emod_bmod, hmod, Int.emod_bmod]
  · exact hmod

theorem holds_wrap (w : Width) (n : Int) : w.holds (w.wrap n) = true := by
  have hsize : 0 < w.size := by cases w <;> decide
  have hlow := Int.le_bmod (x := n) hsize
  have hhigh := Int.bmod_lt (x := n) hsize
  cases w <;>
    simp only [holds, low, high, wrap, signed, size, Bool.and_eq_true, decide_eq_true_eq, if_true,
      Bool.false_eq_true, if_false] at * <;>
    omega

/-- An integer is left as it is exactly if it is in range. -/
theorem wrap_eq_self_iff : w.wrap n = n ↔ w.holds n = true := by
  constructor
  · intro h
    rw [← h]
    exact holds_wrap w n
  · exact wrap_of_holds

theorem holds_i64_iff : i64.holds n = true ↔ -9223372036854775808 ≤ n ∧ n < 9223372036854775808 := by
  simp only [holds, low, high, signed, size, Bool.and_eq_true, decide_eq_true_eq, if_true]
  omega

theorem holds_ull_iff : ull.holds n = true ↔ 0 ≤ n ∧ n < 18446744073709551616 := by
  simp only [holds, low, high, signed, size, Bool.and_eq_true, decide_eq_true_eq, Bool.false_eq_true,
    if_false]
  omega

@[simp] theorem wrap_wrap (w : Width) (n : Int) : w.wrap (w.wrap n) = w.wrap n :=
  wrap_of_holds (holds_wrap w n)

/-- The type that an integer takes as the argument of a function, if it has one. -/
def ofInt? (n : Int) : Option Width :=
  if i64.holds n then some i64 else if ull.holds n then some ull else none

theorem ofInt?_cases (n : Int) :
    (ofInt? n = some i64 ∧ i64.holds n = true) ∨
      (ofInt? n = some ull ∧ i64.holds n = false ∧ ull.holds n = true) ∨
      (ofInt? n = none ∧ i64.holds n = false ∧ ull.holds n = false) := by
  unfold ofInt?
  cases i64.holds n <;> cases ull.holds n <;> simp

theorem eq_of_ofInt? (h : ofInt? n = some w) : w = i64 ∨ w = ull := by
  rcases ofInt?_cases n with ⟨hw, -⟩ | ⟨hw, -⟩ | ⟨hw, -⟩ <;> simp_all

/-- An integer whose type is not the usual one is large. -/
theorem le_natAbs_of_ofInt? (h : ofInt? n ≠ some i64) : 9223372036854775808 ≤ n.natAbs := by
  have hn : i64.holds n ≠ true := fun hholds => h (by rw [ofInt?, if_pos hholds])
  rw [ne_eq, holds_i64_iff] at hn
  omega

end Width

/-- The operations that machine integers do up to a multiple of the size of their range. -/
inductive BinaryOp.IsRing : BinaryOp → (Int → Int → Int) → Prop where
  | add : IsRing .add fun m n => m + n
  | mul : IsRing .mul fun m n => m * n

namespace BinaryOp.IsRing

variable {op : BinaryOp} {f : Int → Int → Int}

theorem congr (h : op.IsRing f) {m m' n n' k : Int} (hm : m ≡ m' [ZMOD k]) (hn : n ≡ n' [ZMOD k]) :
    f m n ≡ f m' n' [ZMOD k] := by
  cases h with
  | add => exact hm.add hn
  | mul => exact hm.mul hn

theorem add_le (h : op.IsRing f) {m n : Int} (hm : 2 ≤ m) (hn : 2 ≤ n) : m + n ≤ f m n := by
  cases h with
  | add => exact Int.le_refl _
  | mul => nlinarith

/-- Reducing the operands first makes no difference. -/
theorem wrap_wrap (h : op.IsRing f) (w : Width) (m n : Int) :
    w.wrap (f (w.wrap m) (w.wrap n)) = w.wrap (f m n) :=
  Width.wrap_congr (h.congr (w.wrap_modEq m) (w.wrap_modEq n))

theorem wordOp (h : op.IsRing f) (w : Width) (m n : Int) :
    Machine.wordOp op w m n = .ok (.word w (w.wrap (f m n))) := by
  cases h <;> rfl

theorem sameTypeOp (h : op.IsRing f) (w : Width) (m n : Int) :
    Machine.sameTypeOp op (.word w m) (.word w n) = .ok (.word w (w.wrap (f m n))) := h.wordOp w m n

end BinaryOp.IsRing

namespace Term

variable {w : Width} {n : Int}

theorem fitWord_of_holds (h : w.holds n = true) : fitWord w n = .ok (.word w n) := by
  rw [fitWord, if_pos h]

theorem fitWord_of_not_holds (h : w.holds n = false) :
    ∃ e, fitWord w n = .error e ∧ e.family = .overflow := by
  rw [fitWord, if_neg (by simp [h])]
  split
  · exact ⟨_, rfl, rfl⟩
  · split
    · exact ⟨_, rfl, rfl⟩
    · exact ⟨_, rfl, rfl⟩

end Term

namespace Value

variable {op : BinaryOp} {f : Int → Int → Int} {w : Width} {m n : Int}

/-- The magnitude of an integer as a function gives it. -/
def magnitudeOf (n : Int) : Value :=
  match Width.ofInt? n with
  | some w => .machine (.word w (w.wrap n.natAbs))
  | Option.none => .int n.natAbs

theorem call_abs (n : Int) : Function.abs.call [.int n] [] = .ok (magnitudeOf n) := by
  have hcall : Function.abs.call [.int n] [] = Function.abs.apply (.int n) := rfl
  rw [hcall, Function.apply, toArgument, magnitudeOf]
  rcases Width.ofInt?_cases n with ⟨hw, h⟩ | ⟨hw, h, h'⟩ | ⟨hw, h, h'⟩
  · simp only [hw, h, if_true]
    rfl
  · simp only [hw, h, h', if_true, Bool.false_eq_true, if_false]
    rfl
  · simp only [hw, h, h', Bool.false_eq_true, if_false]

theorem binary_ints (h : op.IsRing f) (source : String) (m n : Int) :
    binary source op (.int m) (.int n) = .ok (.int (f m n)) := by
  cases h <;> rfl

/-- What a machine integer does with a plain one that fits beside it. -/
theorem map_fitWord_bind {k r : Int} {g : Machine → Except EvalError Machine}
    (hg : w.holds k = true → g (.word w k) = .ok (.word w r)) :
    ((Term.fitWord w k).bind g).map Value.machine =
      (Term.fitWord w k).bind fun _ => .ok (Value.machine (.word w r)) := by
  cases hk : w.holds k with
  | false =>
    obtain ⟨e, he, -⟩ := Term.fitWord_of_not_holds hk
    rw [he]
    rfl
  | true =>
    simp only [Term.fitWord_of_holds hk, Except.bind, hg hk]
    rfl

/-- A plain integer beside a machine integer has to be in range. -/
theorem binary_word_int (h : op.IsRing f) (source : String) (w : Width) (m n : Int) :
    binary source op (.machine (.word w (w.wrap m))) (.int n) =
      (Term.fitWord w n).bind fun _ => .ok (.machine (.word w (w.wrap (f m n)))) := by
  have hmeet : binary source op (.machine (.word w (w.wrap m))) (.int n) =
      ((Term.fitWord w n).bind
        (Machine.sameTypeOp op (.word w (w.wrap (w.wrap m))))).map .machine := by
    cases h <;> rfl
  rw [hmeet]
  refine map_fitWord_bind fun hn => ?_
  have hwrap := h.wrap_wrap w m n
  rw [Width.wrap_of_holds hn] at hwrap
  rw [h.sameTypeOp, Width.wrap_wrap, hwrap]

theorem binary_int_word (h : op.IsRing f) (source : String) (w : Width) (m n : Int) :
    binary source op (.int m) (.machine (.word w (w.wrap n))) =
      (Term.fitWord w m).bind fun _ => .ok (.machine (.word w (w.wrap (f m n)))) := by
  have hmeet : binary source op (.int m) (.machine (.word w (w.wrap n))) =
      ((Term.fitWord w m).bind fun k =>
        Machine.sameTypeOp op k (.word w (w.wrap (w.wrap n)))).map .machine := by
    cases h <;> rfl
  rw [hmeet]
  refine map_fitWord_bind fun hm => ?_
  have hwrap := h.wrap_wrap w m n
  rw [Width.wrap_of_holds hm] at hwrap
  rw [h.sameTypeOp, Width.wrap_wrap, hwrap]

theorem binary_words (h : op.IsRing f) (source : String) (w : Width) (m n : Int) :
    binary source op (.machine (.word w (w.wrap m))) (.machine (.word w (w.wrap n))) =
      .ok (.machine (.word w (w.wrap (f m n)))) := by
  have hmeet : binary source op (.machine (.word w (w.wrap m))) (.machine (.word w (w.wrap n))) =
      (Machine.sameTypeOp op (.word w (w.wrap (w.wrap m))) (.word w (w.wrap (w.wrap n)))).map
        .machine := by
    cases h <;> cases w <;> rfl
  rw [hmeet, h.sameTypeOp, Width.wrap_wrap, Width.wrap_wrap, h.wrap_wrap]
  rfl

/-- Machine integers of both signs meet as reals. -/
theorem binary_mixed_words (h : op.IsRing f) (source : String) {w w' : Width}
    (hsigned : w.signed ≠ w'.signed) (m n : Int) :
    ∃ x, binary source op (.machine (.word w m)) (.machine (.word w' n)) =
      .ok (.machine (.real .double x)) := by
  cases w <;> cases w' <;> first | exact absurd rfl hsigned | (cases h <;> exact ⟨_, rfl⟩)

/-! ## What comes of a magnitude -/

/-- The outcome is a value that is the integer, whatever its width. -/
def IsInt (r : Except EvalError Value) (n : Int) : Prop := ∃ v, r = .ok v ∧ v.plain = .int n

theorem isInt_int {m n : Int} : IsInt (.ok (.int m)) n ↔ m = n := by
  simp [IsInt, plain]

theorem isInt_word {w : Width} {m n : Int} : IsInt (.ok (.machine (.word w m))) n ↔ m = n := by
  simp [IsInt, plain, ofMachine]

theorem not_isInt_real {p : Precision} {x : Float} {n : Int} :
    ¬ IsInt (.ok (.machine (.real p x))) n := by
  simp [IsInt, plain, ofMachine]

/-- The exact result is kept if it is in range, and so is the plain integer that it is made of. -/
theorem isInt_fitWord_iff {w : Width} {k r : Int} :
    IsInt ((Term.fitWord w k).bind fun _ => .ok (.machine (.word w (w.wrap r)))) r ↔
      w.holds k = true ∧ w.holds r = true := by
  cases hk : w.holds k with
  | false =>
    obtain ⟨e, he, -⟩ := Term.fitWord_of_not_holds hk
    simp [he, IsInt, Except.bind]
  | true =>
    rw [Term.fitWord_of_holds hk, Except.bind, isInt_word, Width.wrap_eq_self_iff]
    simp

/-- A magnitude and a plain integer give the exact integer if the magnitude is plain, or if the integer
and the result are in the range of its type. -/
theorem isInt_magnitude_int_iff (h : op.IsRing f) (source : String) (m n : Int) :
    IsInt (binary source op (magnitudeOf m) (.int n)) (f m.natAbs n) ↔
      ∀ w ∈ Width.ofInt? m, w.holds n = true ∧ w.holds (f m.natAbs n) = true := by
  cases hm : Width.ofInt? m with
  | none => simp [magnitudeOf, hm, binary_ints h, isInt_int]
  | some w => simp [magnitudeOf, hm, binary_word_int h, isInt_fitWord_iff]

/-- Beside a machine magnitude a plain one is out of range, or else the result is. -/
theorem not_holds_of_plain {r : Int} (hm : Width.ofInt? m = some w)
    (hn : Width.ofInt? n = Option.none)
    (hr : 2 ≤ m.natAbs → 2 ≤ n.natAbs → (m.natAbs : Int) + n.natAbs ≤ r) :
    ¬ (w.holds n.natAbs = true ∧ w.holds r = true) := by
  rintro ⟨hholds, hresult⟩
  have hlarge : 9223372036854775808 ≤ n.natAbs := Width.le_natAbs_of_ofInt? (by simp [hn])
  rcases Width.eq_of_ofInt? hm with rfl | rfl
  · rw [Width.holds_i64_iff] at hholds
    omega
  · have hlarge' : 9223372036854775808 ≤ m.natAbs := Width.le_natAbs_of_ofInt? (by simp [hm])
    have hsum := hr (by omega) (by omega)
    rw [Width.holds_ull_iff] at hresult
    omega

/-- Two magnitudes give the exact integer if both are plain, or both are of one type that has the result
in its range. -/
theorem isInt_magnitudes_iff (h : op.IsRing f) (source : String) (m n : Int) :
    IsInt (binary source op (magnitudeOf m) (magnitudeOf n)) (f m.natAbs n.natAbs) ↔
      Width.ofInt? m = Width.ofInt? n ∧
        ∀ w ∈ Width.ofInt? m, w.holds (f m.natAbs n.natAbs) = true := by
  have hsum (hm : 2 ≤ m.natAbs) (hn : 2 ≤ n.natAbs) :
      (m.natAbs : Int) + n.natAbs ≤ f m.natAbs n.natAbs := h.add_le (by omega) (by omega)
  cases hm : Width.ofInt? m with
  | none =>
    cases hn : Width.ofInt? n with
    | none => simp [magnitudeOf, hm, hn, binary_ints h, isInt_int]
    | some w =>
      have hout := not_holds_of_plain hn hm fun hn hm => (Int.add_comm _ _).le.trans (hsum hm hn)
      simpa [magnitudeOf, hm, hn, binary_int_word h, isInt_fitWord_iff] using hout
  | some w =>
    cases hn : Width.ofInt? n with
    | none =>
      have hout := not_holds_of_plain hm hn hsum
      simpa [magnitudeOf, hm, hn, binary_word_int h, isInt_fitWord_iff] using hout
    | some w' =>
      by_cases hw : w = w'
      · subst hw
        simp [magnitudeOf, hm, hn, binary_words h, isInt_word, Width.wrap_eq_self_iff]
      · have hsigned : w.signed ≠ w'.signed := by
          rcases Width.eq_of_ofInt? hm with rfl | rfl <;> rcases Width.eq_of_ofInt? hn with rfl | rfl
          all_goals first | exact absurd rfl hw | decide
        obtain ⟨x, hx⟩ := binary_mixed_words h source hsigned (w.wrap m.natAbs) (w'.wrap n.natAbs)
        simp only [magnitudeOf, hm, hn, hx, not_isInt_real, Option.some.injEq, hw, false_and]

end Value

end Formulary
