import Formulary.Proofs.Formula.Expression
import Formulary.Proofs.Value.Word

/-!
# Magnitudes in formulas

Sums and products with the magnitude of an integer are the exact integers as long as the magnitude is
plain, or all that meets it and the result are in the range of its type. Beyond that range the formula
has another value or none.
-/

namespace Formulary

open Formulary.Expr Formulary.Text

variable {a b : Int} {scope : Scope}

theorem Value.display_of_plain {v w : Value} (h : v.plain = w.plain) : v.display = w.display := by
  rw [display, display, display?, display?, h]

namespace Formula

variable {s : List Token} {source : String} {e : Expr} {n : Int}

/-- The formula has the value of an integer and is shown as that integer is. -/
def Gives (scope : Scope) (s : List Token) (n : Int) : Prop :=
  (∃ v, compute scope s = .ok v ∧ v.plain = .int n) ∧ evaluate scope s = (Value.int n).display

theorem gives_of_compute {v : Value} (hs : s ≠ []) (hv : compute scope s = .ok v)
    (hplain : v.plain = .int n) : Gives scope s n := by
  refine ⟨⟨v, hv, hplain⟩, ?_⟩
  rw [evaluate_of_ok hs hv]
  exact Value.display_of_plain hplain

theorem Reads.gives_iff (h : Reads s source e) (hs : s ≠ []) :
    Gives scope s n ↔ Value.IsInt (e.eval ⟨scope, source⟩) n := by
  constructor
  · rintro ⟨⟨v, hv, hplain⟩, -⟩
    rw [h.compute] at hv
    cases he : e.eval ⟨scope, source⟩ with
    | error => rw [he] at hv; cases hv
    | ok w => rw [he] at hv; cases hv; exact ⟨_, rfl, hplain⟩
  · rintro ⟨v, hv, hplain⟩
    exact gives_of_compute hs (by rw [h.compute, hv]; rfl) hplain

/-! ## Formulas with magnitudes -/

/-- The magnitude of `a` with `b`. -/
def magnitudeWith (op : BinaryOp) : List Token :=
  ["abs", "(", "a", ")", op.sign, "b"].map Token.ofText

/-- The magnitudes of `a` and `b`. -/
def magnitudes (op : BinaryOp) : List Token :=
  ["abs", "(", "a", ")", op.sign, "abs", "(", "b", ")"].map Token.ofText

/-- The lexemes of the magnitude of a variable. -/
def magnitudeLexemes (name : String) : List Located :=
  [⟨.name "abs".toList, 1, 0⟩, ⟨.symbol "(", 1, 1⟩, ⟨.name name.toList, 1, 1⟩, ⟨.symbol ")", 1, 0⟩]

theorem reads_product : Reads (magnitudeWith .mul) "abs ( a ) * b"
    (.binary .mul (.call (.name "abs") [.name "a"] []) (.name "b")) :=
  ⟨by decide +kernel, by decide +kernel, by decide +kernel, parse_of_lex
    (magnitudeLexemes "a" ++ [⟨.symbol "*", 1, 0⟩, ⟨.name "b".toList, 1, 0⟩, ⟨.newline, 1, 0⟩,
      ⟨.finish, 2, 0⟩])
    (by decide +kernel) (by with_unfolding_all rfl)⟩

theorem reads_sum : Reads (magnitudeWith .add) "abs ( a ) + b"
    (.binary .add (.call (.name "abs") [.name "a"] []) (.name "b")) :=
  ⟨by decide +kernel, by decide +kernel, by decide +kernel, parse_of_lex
    (magnitudeLexemes "a" ++ [⟨.symbol "+", 1, 0⟩, ⟨.name "b".toList, 1, 0⟩, ⟨.newline, 1, 0⟩,
      ⟨.finish, 2, 0⟩])
    (by decide +kernel) (by with_unfolding_all rfl)⟩

theorem reads_products : Reads (magnitudes .mul) "abs ( a ) * abs ( b )"
    (.binary .mul (.call (.name "abs") [.name "a"] []) (.call (.name "abs") [.name "b"] [])) :=
  ⟨by decide +kernel, by decide +kernel, by decide +kernel, parse_of_lex
    (magnitudeLexemes "a" ++ ⟨.symbol "*", 1, 0⟩ :: magnitudeLexemes "b" ++
      [⟨.newline, 1, 0⟩, ⟨.finish, 2, 0⟩])
    (by decide +kernel) (by with_unfolding_all rfl)⟩

theorem eval_magnitude {setting : Setting} {s : String} (h : setting.scope.get? s = some (.int n)) :
    (Expr.call (.name "abs") [.name s] []).eval setting = .ok (Value.magnitudeOf n) := by
  rw [eval_call (f := .abs) (by decide) (eval_variable h)]
  exact Value.call_abs n

/-- A sum or product with magnitudes is the exact integer exactly if no machine integer has a part in
it, or if its type has all the integers it meets and the result in its range. -/
theorem magnitudes_are_exact_iff (ha : scope.get? "a" = some (.int a))
    (hb : scope.get? "b" = some (.int b)) :
    (Gives scope (magnitudeWith .mul) (a.natAbs * b) ↔
        ∀ w ∈ Width.ofInt? a, w.holds b = true ∧ w.holds (a.natAbs * b) = true) ∧
      (Gives scope (magnitudes .mul) (a.natAbs * b.natAbs) ↔
        Width.ofInt? a = Width.ofInt? b ∧
          ∀ w ∈ Width.ofInt? a, w.holds (a.natAbs * b.natAbs) = true) ∧
      (Gives scope (magnitudeWith .add) (a.natAbs + b) ↔
        ∀ w ∈ Width.ofInt? a, w.holds b = true ∧ w.holds (a.natAbs + b) = true) := by
  refine ⟨?_, ?_, ?_⟩
  · rw [reads_product.gives_iff (by decide),
      eval_binary (by decide) (eval_magnitude ha) (eval_variable hb)]
    exact Value.isInt_magnitude_int_iff .mul _ a b
  · rw [reads_products.gives_iff (by decide),
      eval_binary (by decide) (eval_magnitude ha) (eval_magnitude hb)]
    exact Value.isInt_magnitudes_iff .mul _ a b
  · rw [reads_sum.gives_iff (by decide),
      eval_binary (by decide) (eval_magnitude ha) (eval_variable hb)]
    exact Value.isInt_magnitude_int_iff .add _ a b

/-- A product at the end of the range and one beyond it. -/
theorem magnitudes_are_exact_iff_at_range_end :
    Gives [("a", .int (-4611686018427387904)), ("b", .int (-2))] (magnitudeWith .mul)
        (-9223372036854775808) ∧
      ¬ Gives [("a", .int (-4611686018427387904)), ("b", .int 2)] (magnitudeWith .mul)
        9223372036854775808 := by
  have ha (b : Int) : Scope.get? [("a", .int (-4611686018427387904)), ("b", .int b)] "a" =
    some (.int (-4611686018427387904)) := rfl
  have hb (b : Int) : Scope.get? [("a", .int (-4611686018427387904)), ("b", .int b)] "b" =
    some (.int b) := rfl
  have hend (b : Int) := magnitudes_are_exact_iff (ha b) (hb b)
  exact ⟨(hend (-2)).1.mpr (by decide), fun h => absurd ((hend 2).1.mp h) (by decide)⟩

/-- A product with a magnitude can be shown as another integer. -/
theorem magnitudes_wrap_around :
    ¬ ∀ (scope : Scope) (a b : Int), scope.get? "a" = some (.int a) → scope.get? "b" = some (.int b) →
      evaluate scope (magnitudeWith .mul) = (Value.int (a.natAbs * b)).display ∧
        evaluate scope (magnitudes .mul) = (Value.int (a.natAbs * b.natAbs)).display ∧
        evaluate scope (magnitudeWith .add) = (Value.int (a.natAbs + b)).display := by
  intro h
  have hproduct := (h [("a", .int 4611686018427387904), ("b", .int 4)] _ _ rfl rfl).1
  have hzero : evaluate [("a", .int 4611686018427387904), ("b", .int 4)] (magnitudeWith .mul) =
    "0" := by decide +kernel
  have hexact : (Value.int (4611686018427387904 * 4)).display = "18446744073709551616" := by
    decide +kernel
  rw [hzero] at hproduct
  exact absurd (hproduct.trans hexact) (by decide)

end Formula

end Formulary
