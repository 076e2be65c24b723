import Formulary.Proofs.Formula.Meaning

/-!
# Formulas of one expression

A formula whose source is parsed to one expression has the value of that expression.
-/

namespace Formulary

open Formulary.Expr Formulary.Text

theorem Expr.eval_variable {setting : Setting} {s : String} {v : Value}
    (h : setting.scope.get? s = some v) : (Expr.name s).eval setting = .ok v := by
  rw [Expr.eval, Setting.valueOf, h]

theorem Expr.eval_call {setting : Setting} {s : String} {f : Function} {e : Expr} {v : Value}
    (hf : Function.ofName? s = some f) (he : e.eval setting = .ok v) :
    (Expr.call (.name s) [e] []).eval setting = f.call [v] [] := by
  have hfunction : setting.functionOf s = .ok f := by rw [Setting.functionOf, hf]
  simp only [Expr.eval, hfunction, evalList, he, evalNamed]
  rfl

namespace Formula

/-- The source of a formula is a text that is parsed to one expression. -/
structure Reads (s : List Token) (source : String) (e : Expr) : Prop where
  source_eq : toSource s = source
  trimmed : trimChars source.toList = source.toList
  noNull : source.toList.contains (Char.ofNat 0) = false
  parsed : Expr.parse source.toList = .ok [.value e]

variable {s : List Token} {source : String} {e : Expr}

theorem Reads.compute (h : Reads s source e) (scope : Scope) :
    compute scope s = (e.eval ⟨scope, source⟩).mapError fun c => ⟨render s, c.describe⟩ := by
  have heval : evalSource scope source = e.eval ⟨scope, source⟩ := by
    rw [evalSource, h.trimmed, h.noNull]
    simp only [Bool.false_eq_true, if_false, h.parsed]
    rfl
  rw [Formula.compute, h.source_eq, heval]
  cases e.eval ⟨scope, source⟩ <;> rfl

end Formula

end Formulary
