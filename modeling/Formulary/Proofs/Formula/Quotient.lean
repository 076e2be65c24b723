import Formulary.Proofs.Formula.Expression
import Formulary.Proofs.Value.Division

/-!
# Quotients by zero in formulas

A formula that divides a real by a zero has the infinity with the product of the signs as its value, or
the undefined number. It fails for one kind of dividend only, an integer that is out of the range of
doubles.
-/

namespace Formulary.Formula

open Formulary.Expr
open Binary (Side infinity)

variable {scope : Scope} {s : List Token} {source : String} {l r : Expr} {a b : Value} {side : Side}
  {negative : Bool}

theorem compute_of_reads_quotient (h : Reads s source (.binary .div l r))
    (hl : l.eval ⟨scope, source⟩ = .ok a) (hr : r.eval ⟨scope, source⟩ = .ok b) :
    compute scope s = (a.divide b).mapError fun c => ⟨render s, c.describe⟩ := by
  rw [h.compute, eval_binary (by decide) hl hr]
  rfl

/-- A quotient of a real by a zero is the infinity with the product of the signs, and undefined if the
dividend is zero or undefined; there is none if the dividend is an integer out of the range of
doubles. -/
theorem quotient_by_zero (h : Reads s source (.binary .div l r))
    (hl : l.eval ⟨scope, source⟩ = .ok a) (hr : r.eval ⟨scope, source⟩ = .ok b)
    (ha : a.side? = some side) (hb : b.side? = some (.zero negative)) :
    (a.InRange → ∃ v, v.plain = .float (side.overZero negative) ∧ a.divide b = .ok v ∧
        compute scope s = .ok v) ∧
      (¬ a.InRange → a.divide b = .error .intTooLargeForReal ∧
        compute scope s = .error ⟨render s, EvalError.intTooLargeForReal.describe⟩) := by
  obtain ⟨v, hplain, hdivide⟩ := Value.divide_of_zero ha hb
  rw [compute_of_reads_quotient h hl hr]
  rcases Value.double?_cases ha with ⟨x, hx, -, hrange⟩ | ⟨hx, hrange⟩
  · have hok : a.divide b = .ok v := by rw [hdivide, hx]; rfl
    exact ⟨fun _ => ⟨v, hplain, hok, by rw [hok]; rfl⟩, fun h => absurd hrange h⟩
  · have herror : a.divide b = .error .intTooLargeForReal := by rw [hdivide, hx]; rfl
    exact ⟨fun h => absurd h hrange, fun _ => ⟨herror, by rw [herror]; rfl⟩⟩

theorem reads_quotient : Reads (["a", "/", "b"].map Token.ofText) "a / b"
    (.binary .div (.name "a") (.name "b")) :=
  ⟨by decide +kernel, by decide +kernel, by decide +kernel, parse_of_lex
    [⟨.name "a".toList, 1, 0⟩, ⟨.symbol "/", 1, 0⟩, ⟨.name "b".toList, 1, 0⟩, ⟨.newline, 1, 0⟩,
      ⟨.finish, 2, 0⟩]
    (by decide +kernel) (by with_unfolding_all rfl)⟩

/-- A negative integer over the negative zero. -/
theorem quotient_by_zero_negative : ∃ v, v.plain = .float (infinity false) ∧
    Value.divide (.int (-5)) (.float (-0.0)) = .ok v ∧
      compute [("a", .int (-5)), ("b", .float (-0.0))] (["a", "/", "b"].map Token.ofText) = .ok v := by
  have ha : Scope.get? [("a", .int (-5)), ("b", .float (-0.0))] "a" = some (.int (-5)) := rfl
  have hb : Scope.get? [("a", .int (-5)), ("b", .float (-0.0))] "b" = some (.float (-0.0)) := rfl
  have hzero : (Value.float (-0.0)).side? = some (.zero true) := by decide +kernel
  refine (quotient_by_zero reads_quotient (eval_variable ha) (eval_variable hb) rfl hzero).1 ?_
  rintro n ⟨⟩
  decide +kernel

/-- An integer of 401 digits over zero. -/
theorem quotient_by_zero_missing :
    ¬ ∀ (a b : Value) (side : Side) (negative : Bool), a.side? = some side →
      b.side? = some (.zero negative) →
      ∃ v, a.divide b = .ok v ∧ v.plain = .float (side.overZero negative) := by
  intro h
  obtain ⟨v, hv, -⟩ := h (.int (10 ^ 400)) (.int 0) _ _ rfl rfl
  have hlarge : ¬ (Value.int (10 ^ 400)).InRange := fun hrange =>
    absurd (hrange _ rfl) (by decide +kernel)
  obtain ⟨w, -, hdivide⟩ := Value.divide_of_zero (a := .int (10 ^ 400)) (b := .int 0) rfl rfl
  rcases Value.double?_cases (a := .int (10 ^ 400)) rfl with ⟨-, -, -, hrange⟩ | ⟨hdouble, -⟩
  · exact hlarge hrange
  · rw [hdivide, hdouble] at hv
    cases hv

end Formulary.Formula
