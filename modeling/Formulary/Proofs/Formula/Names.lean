import Formulary.Formula.Evaluate
import Formulary.Proofs.Expr.Names

/-!
# The names of a formula

A formula has the same value, or fails for the same reason, in all scopes that agree on the names in
its source. What else a scope binds makes no difference.
-/

namespace Formulary

namespace Scope

/-- The scope without the bindings of a name. -/
def without (s : Scope) (name : String) : Scope := s.filter (·.1 ≠ name)

theorem get?_without_other (s : Scope) {name other : String} (h : other ≠ name) :
    (s.without name).get? other = s.get? other := by
  induction s with
  | nil => rfl
  | cons b rest ih =>
    obtain ⟨n, v⟩ := b
    simp only [get?, without] at ih ⊢
    by_cases hn : n = name
    · have hne : (other == n) = false := beq_eq_false_iff_ne.mpr fun heq => h (heq.trans hn)
      rw [List.filter_cons_of_neg (by simpa using hn), List.lookup_cons, hne]
      exact ih
    · rw [List.filter_cons_of_pos (by simpa using hn), List.lookup_cons, List.lookup_cons, ih]

variable {s : Scope} {names : List String} {name : String}

theorem agreesOn_bind (h : name ∉ names) (v : Value) : (s.bind name v).AgreesOn s names := by
  intro n hn
  have hne : n ≠ name := fun heq => h (heq ▸ hn)
  exact get?_bind_other s hne v

theorem agreesOn_without (h : name ∉ names) : (s.without name).AgreesOn s names := by
  intro n hn
  have hne : n ≠ name := fun heq => h (heq ▸ hn)
  exact get?_without_other s hne

end Scope

/-- The names that stand in the statements of a text. -/
def sourceNames (source : String) : List String :=
  match Expr.parse (Text.trimChars source.toList) with
  | .ok statements => statements.flatMap Statement.names
  | .error _ => []

variable {s t : Scope}

theorem evalSource_congr {source : String} (h : s.AgreesOn t (sourceNames source)) :
    evalSource s source = evalSource t source := by
  unfold evalSource
  unfold sourceNames at h
  dsimp only
  split
  · rfl
  · cases hparse : Expr.parse (Text.trimChars source.toList) with
    | error r => rfl
    | ok statements =>
      rw [hparse] at h
      cases statements with
      | nil => rfl
      | cons st rest =>
        have hst : s.AgreesOn t st.names := (Scope.agreesOn_append.mp h).1
        exact Statement.eval_congr source st hst

namespace Formula

/-- The names that stand in the source of a formula. -/
def names (formula : List Token) : List String := sourceNames (toSource formula)

variable {formula : List Token}

theorem compute_congr (h : s.AgreesOn t (names formula)) : compute s formula = compute t formula := by
  rw [compute, compute, evalSource_congr h]

theorem evaluate_congr_scope (h : s.AgreesOn t (names formula)) :
    evaluate s formula = evaluate t formula := by
  rw [evaluate, evaluate, compute_congr h]

/-- Two scopes that agree on the names of a formula give it the same value or the same failure, and a
binding of any other name is without effect on its text. -/
theorem value_depends_on_names (formula : List Token) :
    (∀ s t : Scope, s.AgreesOn t (names formula) → compute s formula = compute t formula) ∧
      ∀ (s : Scope) (name : String), name ∉ names formula →
        (∀ v, evaluate (s.bind name v) formula = evaluate s formula) ∧
          evaluate (s.without name) formula = evaluate s formula := by
  constructor
  · intro s t h
    exact compute_congr h
  · intro s name h
    constructor
    · intro v
      exact evaluate_congr_scope (Scope.agreesOn_bind h v)
    · exact evaluate_congr_scope (Scope.agreesOn_without h)

/-- A call, a comparison and a name without value. -/
theorem value_depends_on_names_choice :
    let formula := [Token.ofText "max(x, y) if x < 2 else z"]
    let s : Scope := [("x", .int 1), ("y", .int 10)]
    let t : Scope := [("w", .int 3), ("y", .int 10), ("x", .int 1)]
    names formula = ["x", "max", "x", "y", "z"] ∧ s.AgreesOn t (names formula) ∧
      compute s formula = compute t formula ∧
      evaluate (s.bind "sin" (.int 7)) formula = evaluate s formula ∧
      evaluate (t.without "w") formula = evaluate t formula := by
  intro formula s t
  have hnames : names formula = ["x", "max", "x", "y", "z"] := by decide +kernel
  have hagree : s.AgreesOn t (names formula) := by
    rw [hnames]
    simp [Scope.AgreesOn, Scope.get?, s, t, List.lookup_cons]
  obtain ⟨hsame, hother⟩ := value_depends_on_names formula
  refine ⟨hnames, hagree, hsame s t hagree, (hother s "sin" ?_).1 (.int 7), (hother t "w" ?_).2⟩
  · rw [hnames]
    decide
  · rw [hnames]
    decide

end Formula

end Formulary
