import Formulary.Proofs.Formula.Reading

/-!
# The meaning of integer formulas

A formula whose texts are a sum of the grammar evaluates to the text of the exact integer that the
grammar gives it.
-/

namespace Formulary

open Formulary.Expr Formulary.Expr.Grammar

namespace Value

theorem exceeds_int {bound : Nat} {n : Int} (h : n.natAbs ≤ bound) :
    exceeds bound (.int n) = .ok false := by
  have horder : Ord.compare (n.natAbs : Int) bound ≠ .gt := by
    rw [ne_eq, Int.compare_eq_gt]
    omega
  have hexceeds : exceeds bound (.int n) =
      .ok (some (Ord.compare (n.natAbs : Int) bound) == some .gt) := rfl
  rw [hexceeds, beq_eq_false_iff_ne.mpr fun heq => horder (Option.some.inj heq)]

/-- A power of integers within the bound is exact. -/
theorem power_int {m n : Int} (hn : 0 ≤ n) (hm : m.natAbs ≤ maxPower)
    (hn' : n.natAbs ≤ maxPower) : power (.int m) (.int n) = .ok (.int (Int.pow m n.toNat)) := by
  have hplain : plainPower (.int m) (.int n) = .ok (.int (Int.pow m n.toNat)) := by
    rw [plainPower, if_pos hn]
  have hbounded : boundedPower (.int m) (.int n) = .ok (.int (Int.pow m n.toNat)) := by
    rw [boundedPower, exceeds_int hm, exceeds_int hn']
    exact hplain
  rw [power, hbounded]

end Value

theorem Expr.eval_binary {setting : Setting} {op : BinaryOp} {a b : Expr} {x y : Value}
    (hop : op ≠ .matMul) (ha : a.eval setting = .ok x) (hb : b.eval setting = .ok y) :
    (Expr.binary op a b).eval setting = Value.binary setting.source op x y := by
  rw [Expr.eval, if_neg hop, ha, hb]
  rfl

namespace Formula

variable {l : Level} {scope : Scope} {env : String → Int}

namespace Phrase

theorem eval_expr (t : Phrase l) (h : t.Admissible scope env) (source : String) :
    t.expr.eval ⟨scope, source⟩ = .ok (.int (t.value env)) := by
  induction t with
  | literal n => rfl
  | name s =>
    rw [expr, eval, Setting.valueOf, h.bound]
    rfl
  | group p ih | base p ih | unsigned p ih | factor p ih | term p ih => exact ih h
  | minus f ih =>
    rw [expr, eval, ih h]
    rfl
  | raised p f ihp ihf =>
    obtain ⟨hp, hf, hpos, hbase, hexponent⟩ := h
    rw [expr, eval_binary (by decide) (ihp hp) (ihf hf), Value.binary,
      Value.power_int hpos hbase hexponent, value]
  | times p q ihp ihq | beside p q ihp ihq | plus p q ihp ihq | less p q ihp ihq =>
    exact eval_binary (by decide) (ihp h.1) (ihq h.2)

end Phrase

/-- The source of a sum is parsed to the one statement of its expression. -/
theorem parse_spaced (t : Phrase .sum) (h : t.Admissible scope env)
    (hnesting : t.nesting ≤ maxDepth) : parse (spaced t.words) = .ok [.value t.expr] := by
  have hspells := t.spells h {} (by simpa [ScanState.depth] using hnesting)
  obtain ⟨k, ks, hks, hk⟩ := t.starts_lexemes h 1 0
  have hexpr := t.parses_expression h (t.parsed h 1 0)
  have hlex := hspells.lex_eq
  simp only [ScanState.depth, List.length_nil] at hlex
  generalize hls : t.lexemes 1 0 ++ [⟨.newline, 1, 0⟩, ⟨.finish, 2, 0⟩] = ls at hlex
  have hone : expression false (24 * ls.length + 22) ls =
      .ok t.expr [⟨.newline, 1, 0⟩, ⟨.finish, 2, 0⟩] := by
    rw [← hls]
    refine hexpr _ _ _ (by decide) ?_
    rw [List.length_append, stepsEach]
    omega
  have hstatements : statements false (24 * ls.length + 24) (24 * ls.length + 24) ls =
      .ok [.value t.expr] [⟨.finish, 2, 0⟩] := by
    generalize 24 * ls.length = n at hone ⊢
    rw [← hls, hks, List.cons_append] at hone ⊢
    exact statements_expression hk rfl rfl hone (n + 22)
  exact parse_of_lex ls hlex hstatements

theorem evalSource_spaced (t : Phrase .sum) (h : t.Admissible scope env)
    (hnesting : t.nesting ≤ maxDepth) {source : String} (hsource : source.toList = spaced t.words) :
    evalSource scope source = .ok (.int (t.value env)) := by
  have hline := (t.spells h {} (by simpa [ScanState.depth] using hnesting)).isLine
  have hnull : (spaced t.words).contains (Char.ofNat 0) = false := by
    refine Bool.eq_false_iff.mpr fun hcontains => ?_
    exact hline.ne (List.contains_iff_mem.mp hcontains) (by decide) rfl
  rw [evalSource, hsource, hline.trimChars, hnull]
  simp only [Bool.false_eq_true, if_false, parse_spaced t h hnesting]
  exact t.eval_expr h source

/-- A formula of the grammar has the exact integer that the grammar gives it, as a text. -/
theorem evaluate_integer_formula {formula : List Token} (t : Phrase .sum)
    (htexts : formula.map Token.display = t.texts) (h : t.Admissible scope env)
    (hnesting : t.nesting ≤ maxDepth) :
    evaluate scope formula = (Value.int (t.value env)).display := by
  have hne : formula.isEmpty = false := by
    refine List.isEmpty_eq_false_iff.mpr fun hnil => t.texts_ne_nil ?_
    rw [← htexts, hnil, List.map_nil]
  have hvalue := evalSource_spaced t h hnesting (t.toSource_eq h htexts)
  rw [evaluate, hne, if_neg Bool.false_ne_true, compute, hvalue]

/-- The sum that `- 2 ^ 3 ^ 2 x ( y - 1 ) + 7` writes. -/
def mixed : Phrase .sum :=
  let number : Nat → Phrase .factor := fun n => .unsigned (.base (.literal n))
  let power := .raised (.literal 2) (.unsigned (.raised (.literal 3) (number 2)))
  let difference := .less (.term (.factor (.unsigned (.base (.name "y"))))) (.factor (number 1))
  let product := .beside (.factor (.minus (.unsigned power))) (.base (.name "x"))
  .plus (.term (.beside product (.base (.group difference)))) (.factor (number 7))

theorem evaluate_integer_formula_mixed :
    evaluate Scope.default
      (["-", "2", "^", "3", "^", "2", "x", "(", "y", "-", "1", ")", "+", "7"].map Token.ofText) =
      "-23033" := by
  have hx : IsVariable Scope.default "x" 5 := ⟨by decide, by decide, by decide, rfl⟩
  have hy : IsVariable Scope.default "y" 10 := ⟨by decide, by decide, by decide, rfl⟩
  have hd : ∀ n : Nat, n < 10 → (toString n).length ≤ Decimal.maxIntegerDigits := by decide
  have h : mixed.Admissible Scope.default fun s => if s = "x" then 5 else 10 := by
    refine ⟨⟨⟨⟨hd 2 ?_, ⟨hd 3 ?_, hd 2 ?_, ?_, ?_, ?_⟩, ?_, ?_, ?_⟩, hx⟩, hy, hd 1 ?_⟩, hd 7 ?_⟩ <;>
    decide
  exact evaluate_integer_formula mixed (by decide) h (by decide)

end Formula

end Formulary
