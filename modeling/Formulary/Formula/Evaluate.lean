import Formulary.Expr.Eval
import Formulary.Formula.Source
import Formulary.Notice

/-!
Evaluation of formulas. Computing gives a value or a failure that names the formula; evaluating
never fails and gives the text to show.
-/

namespace Formulary

namespace Formula

def compute (scope : Scope) (s : List Token) : Except EvaluationFailure Value :=
  match evalSource scope (toSource s) with
  | .ok v => .ok v
  | .error e => .error ⟨render s, e.describe⟩

/-- The text to show for a formula: empty for no tokens, else the value or the failure. -/
def evaluate (scope : Scope) (s : List Token) : String :=
  if s.isEmpty then ""
  else
    match compute scope s with
    | .ok v => v.display
    | .error e => e.message

theorem evaluate_of_ok {scope : Scope} {s : List Token} {v : Value} (h : s ≠ [])
    (hv : compute scope s = .ok v) : evaluate scope s = v.display := by
  rw [evaluate, if_neg (by simpa using h), hv]

theorem evaluate_of_error {scope : Scope} {s : List Token} {e : EvaluationFailure} (h : s ≠ [])
    (he : compute scope s = .error e) : evaluate scope s = e.message := by
  rw [evaluate, if_neg (by simpa using h), he]

/-- The text to show for a formula, with a notice if the formula has no value. -/
def report (scope : Scope) (s : List Token) : Noted String :=
  if s.isEmpty then pure ""
  else
    match compute scope s with
    | .ok v => pure v.display
    | .error e => ⟨e.message, [.noValue e]⟩

/-- Why entries have no value. -/
inductive EntriesFailure where
  /-- There is no sequence at all. -/
  | missing
  | notAToken (e : NotAToken)
  | failed (e : EvaluationFailure)

def computeEntries (scope : Scope) (s : Option (List Entry)) : Except EntriesFailure Value :=
  match s with
  | none => .error .missing
  | some entries =>
    match entries.mapM Entry.display with
    | .error e => .error (.notAToken e)
    | .ok texts =>
      match evalSource scope (sourceOfTexts texts) with
      | .ok v => .ok v
      | .error e => .error (.failed ⟨" ".intercalate texts, e.describe⟩)

def evaluateEntries (scope : Scope) (s : Option (List Entry)) : String :=
  let refused := fun (cause : String) => EvaluationFailure.message ⟨"", "TypeError: " ++ cause⟩
  match s with
  | some [] => ""
  | none => refused "object of type 'NoneType' has no len()"
  | some entries =>
    match computeEntries scope (some entries) with
    | .ok v => v.display
    | .error (.failed e) => e.message
    | .error (.notAToken e) => refused e.message
    | .error .missing => refused "object of type 'NoneType' has no len()"

/-- What is told of a sequence that has no value, other than a failure of its formula. -/
def EntriesFailure.message : EntriesFailure → String
  | .missing => "'NoneType' object is not iterable"
  | .notAToken e => e.message
  | .failed e => e.message

end Formula

end Formulary
