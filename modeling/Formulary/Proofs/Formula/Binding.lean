import Formulary.Formula.Evaluate
import Formulary.Proofs.Config.Binding
import Formulary.Proofs.Formula.Reading

/-!
# Bindings in formulas

A formula of one name has the value that is bound to the name, if the name is no reserved word and is
written in composed form. Any other name can be bound all the same, but the binding is never used.
-/

namespace Formulary

open Formulary.Expr Formulary.Expr.Grammar Formulary.Text

namespace Expr

variable {word : List Char}

/-- A line of one atom is an expression. -/
theorem expression_atom {k l : Located} {rest : List Located} {e : Expr}
    (hk : StartsOperation k.lexeme) (hsign : signAt k.lexeme = none) (hl : l.lexeme = .newline)
    (hatom : ∀ fuel ks, atom false (fuel + 1) (k :: ks) = .ok e ks) (fuel : Nat) :
    expression false (fuel + 14) (k :: l :: rest) = .ok e (l :: rest) := by
  have hvalue : EndsValue l.lexeme := by
    rw [hl]
    exact ⟨nofun, nofun, nofun⟩
  have hends : EndsOperation l.lexeme := by
    rw [hl]
    exact ⟨nofun, fun _ => rfl, nofun⟩
  have hprimary := primary_atom (hatom fuel (l :: rest)) hvalue
  have h10 := operation_base hsign hprimary (by rw [hl]; exact nofun)
  have h9 := operation_loosen (by decide) (by decide) hends h10
  have h8 := operation_loosen (by decide) (by decide) hends h9
  exact expression_sum hk hends h8

theorem parse_identifier (h : isIdentifier word = true) (hreserved : isReserved word = false) :
    parse word = .ok [.value (.name (normalize (String.ofList word)))] := by
  have hk : StartsOperation (Located.mk (.name word) 1 0).lexeme := by
    have hname : isReserved (String.ofList word).toList = false := by
      rwa [String.toList_ofList]
    have hstart := Formula.Phrase.startsOperation_name hname
    rwa [String.toList_ofList] at hstart
  have hexpr : expression false 94 [⟨.name word, 1, 0⟩, ⟨.newline, 1, 0⟩, ⟨.finish, 2, 0⟩] =
      .ok (.name (normalize (String.ofList word))) [⟨.newline, 1, 0⟩, ⟨.finish, 2, 0⟩] :=
    expression_atom hk rfl rfl (fun _ _ => atom_name rfl hreserved) 80
  have hstatements := statements_expression hk rfl rfl hexpr 94
  exact parse_of_lex _ (lex_identifier h) hstatements

theorem contains_null_of_isIdentifier (h : isIdentifier word = true) :
    word.contains (Char.ofNat 0) = false := by
  refine Bool.eq_false_iff.mpr fun hcontains => ?_
  have hnull := mayContinueName_of_isIdentifier h _ (List.contains_iff_mem.mp hcontains)
  exact ne_of_mayContinueName hnull (by decide) rfl

end Expr

namespace Formula

variable {text name : String} {v : Value}

theorem evalSource_identifier (scope : Scope) (h : isIdentifier name.toList = true)
    (htrim : trim name = name) (hreserved : isReserved name.toList = false) :
    evalSource scope name = Setting.valueOf ⟨scope, name⟩ (normalize name) := by
  have hchars : trimChars name.toList = name.toList := by rw [← toList_trim, htrim]
  rw [evalSource, hchars, contains_null_of_isIdentifier h]
  simp only [Bool.false_eq_true, if_false, parse_identifier h hreserved, String.ofList_toList]
  rfl

/-- What a statement comes to without a look at the scope. -/
def isConstant : Statement → Bool
  | .value (.literal _) | .form _ | .importing => true
  | .value _ => false

theorem eval_constant {s : Statement} (h : isConstant s = true) (scope : Scope) (source : String) :
    s.eval ⟨scope, source⟩ = s.eval ⟨[], source⟩ := by
  cases s with
  | form name => rfl
  | importing => rfl
  | value e =>
    cases e with
    | literal v => rfl
    | _ => cases h

/-- A reserved word is read as a constant or as no formula at all. -/
theorem parse_reserved : ∀ w ∈ reservedWords,
    (match parse (trimChars w.toList) with
      | .ok (s :: _) => isConstant s
      | _ => true) = true := by
  decide +kernel

theorem evalSource_reserved (scope : Scope) (h : isReserved name.toList = true) :
    evalSource scope name = evalSource [] name := by
  have hmem : name ∈ reservedWords := by
    rw [isReserved, String.ofList_toList] at h
    exact List.contains_iff_mem.mp h
  have hconstant := parse_reserved name hmem
  unfold evalSource
  dsimp only
  split
  · rfl
  · split
    · rfl
    · rfl
    · rename_i s rest hparse
      rw [hparse] at hconstant
      exact eval_constant hconstant scope name

theorem toSource_identifier (h : isIdentifier name.toList = true) :
    toSource [Token.ofText name] = name := by
  have hcaret : '^' ∉ name.toList := fun hmem =>
    ne_of_mayContinueName (mayContinueName_of_isIdentifier h _ hmem) (by decide) rfl
  rw [toSource, List.map_singleton, Token.display_ofText]
  exact String.toList_inj.mp (spaced_singleton hcaret)

/-- An accepted binding is used exactly if its name is no reserved word and is in composed form: the
name alone then has the value that is bound to it, and else what it has without the binding. -/
theorem accepted_binding_is_used (h : parseBinding text = .ok (name, v)) :
    (isReserved name.toList = false ∧ normalize name = name →
        compute [(name, v)] [Token.ofText name] = .ok v ∧
          evaluate [(name, v)] [Token.ofText name] = v.display) ∧
      (isReserved name.toList = true ∨ normalize name ≠ name →
        compute [(name, v)] [Token.ofText name] = compute [] [Token.ofText name]) := by
  obtain ⟨hname, htrim, -⟩ := parseBinding_ok h
  have hsource := toSource_identifier hname
  constructor
  · rintro ⟨hreserved, hnormal⟩
    have hbound : Scope.get? [(name, v)] name = some v := Scope.get?_bind_same [] name v
    have hvalue : compute [(name, v)] [Token.ofText name] = .ok v := by
      rw [compute, hsource, evalSource_identifier _ hname htrim hreserved, hnormal,
        Setting.valueOf, hbound]
    refine ⟨hvalue, ?_⟩
    rw [evaluate, List.isEmpty_cons, if_neg Bool.false_ne_true, hvalue]
  · intro hunused
    have hsame : evalSource [(name, v)] name = evalSource [] name := by
      cases hreserved : isReserved name.toList with
      | true => exact evalSource_reserved _ hreserved
      | false =>
        have hne : normalize name ≠ name := hunused.resolve_left (by simp [hreserved])
        have hother : Scope.get? [(name, v)] (normalize name) = Scope.get? [] (normalize name) :=
          Scope.get?_bind_other [] hne v
        rw [evalSource_identifier _ hname htrim hreserved,
          evalSource_identifier _ hname htrim hreserved, Setting.valueOf, Setting.valueOf, hother]
    rw [compute, compute, hsource, hsame]

/-- The name of a function, and a reserved word. -/
theorem accepted_binding_is_used_shadowing :
    parseBinding " sin = -0_7" = .ok ("sin", .int (-7)) ∧
      parseBinding "if=5" = .ok ("if", .int 5) ∧
      compute [("sin", .int (-7))] [Token.ofText "sin"] = .ok (.int (-7)) ∧
      evaluate [("sin", .int (-7))] [Token.ofText "sin"] = "-7" ∧
      compute [("if", .int 5)] [Token.ofText "if"] = compute [] [Token.ofText "if"] := by
  have hname : parseBinding " sin = -0_7" = .ok ("sin", .int (-7)) := rfl
  have hword : parseBinding "if=5" = .ok ("if", .int 5) := rfl
  obtain ⟨hvalue, htext⟩ := (accepted_binding_is_used hname).1 ⟨by decide, by decide⟩
  exact ⟨hname, hword, hvalue, htext, (accepted_binding_is_used hword).2 (Or.inl (by decide))⟩

/-- A reserved word can be bound, but it does not have the value. -/
theorem accepted_binding_unused :
    ¬ ∀ text name v, parseBinding text = .ok (name, v) →
      compute [(name, v)] [Token.ofText name] = .ok v ∧
        evaluate [(name, v)] [Token.ofText name] = v.display := by
  intro h
  have hword := (h "if=5" "if" (.int 5) rfl).2
  have hfault : evaluate [("if", .int 5)] [Token.ofText "if"] ≠ "5" := by decide +kernel
  exact hfault hword

end Formula

end Formulary
