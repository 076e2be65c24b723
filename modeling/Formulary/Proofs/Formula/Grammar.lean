import Formulary.Formula.Evaluate
import Formulary.Proofs.Text.Plain

/-!
# The grammar of integer formulas

Sums of products of signed powers, over numerals, variables and parentheses:

    E := T (('+' | '-') T)*      T := F ('*' F | G)*      F := '-' F | G
    G := P ['^' F]               P := numeral | variable | '(' E ')'

A bare `G` behind a product multiplies as `*` does. The trees are those of the grammar, one constructor
a rule, with the repetitions grouped to the left. A tree means an exact integer.
-/

namespace Formulary.Formula

/-- The levels of the grammar, from the loosest. -/
inductive Level where
  | sum | product | factor | power | primary
deriving DecidableEq, Repr

inductive Phrase : Level → Type where
  | literal (n : Nat) : Phrase .primary
  | name (s : String) : Phrase .primary
  | group (e : Phrase .sum) : Phrase .primary
  | base (p : Phrase .primary) : Phrase .power
  | raised (p : Phrase .primary) (f : Phrase .factor) : Phrase .power
  | unsigned (g : Phrase .power) : Phrase .factor
  | minus (f : Phrase .factor) : Phrase .factor
  | factor (f : Phrase .factor) : Phrase .product
  | times (p : Phrase .product) (f : Phrase .factor) : Phrase .product
  | beside (p : Phrase .product) (g : Phrase .power) : Phrase .product
  | term (p : Phrase .product) : Phrase .sum
  | plus (e : Phrase .sum) (p : Phrase .product) : Phrase .sum
  | less (e : Phrase .sum) (p : Phrase .product) : Phrase .sum

/-- A plain name that is no word of the expression language and no function stands for an integer. -/
structure IsVariable (scope : Scope) (s : String) (n : Int) : Prop where
  plain : Text.isPlainName s.toList = true
  notReserved : Expr.Grammar.isReserved s.toList = false
  notFunction : Function.ofName? s = none
  bound : scope.get? s = some (.int n)

namespace Phrase

variable {l : Level}

/-- The texts of a phrase in order. -/
def texts : {l : Level} → Phrase l → List String
  | _, literal n => [toString n]
  | _, name s => [s]
  | _, group e => "(" :: (e.texts ++ [")"])
  | _, base p => p.texts
  | _, raised p f => p.texts ++ "^" :: f.texts
  | _, unsigned g => g.texts
  | _, minus f => "-" :: f.texts
  | _, factor f => f.texts
  | _, times p f => p.texts ++ "*" :: f.texts
  | _, beside p g => p.texts ++ g.texts
  | _, term p => p.texts
  | _, plus e p => e.texts ++ "+" :: p.texts
  | _, less e p => e.texts ++ "-" :: p.texts

/-- The integer that a phrase means, with the integers that its names stand for. -/
def value (env : String → Int) : {l : Level} → Phrase l → Int
  | _, literal n => n
  | _, name s => env s
  | _, group e => e.value env
  | _, base p => p.value env
  | _, raised p f => Int.pow (p.value env) (f.value env).toNat
  | _, unsigned g => g.value env
  | _, minus f => -f.value env
  | _, factor f => f.value env
  | _, times p f => p.value env * f.value env
  | _, beside p g => p.value env * g.value env
  | _, term p => p.value env
  | _, plus e p => e.value env + p.value env
  | _, less e p => e.value env - p.value env

/-- Every numeral can be read, every name is a variable, and every power has an exponent that is not
negative and is not too large. -/
def Admissible (scope : Scope) (env : String → Int) : {l : Level} → Phrase l → Prop
  | _, literal n => (toString n).length ≤ Decimal.maxIntegerDigits
  | _, name s => IsVariable scope s (env s)
  | _, group e => e.Admissible scope env
  | _, base p => p.Admissible scope env
  | _, raised p f =>
    p.Admissible scope env ∧ f.Admissible scope env ∧ 0 ≤ f.value env ∧
      (p.value env).natAbs ≤ Value.maxPower ∧ (f.value env).natAbs ≤ Value.maxPower
  | _, unsigned g => g.Admissible scope env
  | _, minus f => f.Admissible scope env
  | _, factor f => f.Admissible scope env
  | _, times p f => p.Admissible scope env ∧ f.Admissible scope env
  | _, beside p g => p.Admissible scope env ∧ g.Admissible scope env
  | _, term p => p.Admissible scope env
  | _, plus e p => e.Admissible scope env ∧ p.Admissible scope env
  | _, less e p => e.Admissible scope env ∧ p.Admissible scope env

/-- The most parentheses that are open at once. -/
def nesting : {l : Level} → Phrase l → Nat
  | _, literal _ => 0
  | _, name _ => 0
  | _, group e => e.nesting + 1
  | _, base p => p.nesting
  | _, raised p f => max p.nesting f.nesting
  | _, unsigned g => g.nesting
  | _, minus f => f.nesting
  | _, factor f => f.nesting
  | _, times p f => max p.nesting f.nesting
  | _, beside p g => max p.nesting g.nesting
  | _, term p => p.nesting
  | _, plus e p => max e.nesting p.nesting
  | _, less e p => max e.nesting p.nesting

@[simp] theorem texts_ne_nil (t : Phrase l) : t.texts ≠ [] := by
  induction t <;> simp_all [texts]

end Phrase

end Formulary.Formula
