import Formulary.Expr.Eval

/-!
# The names of an expression

An expression is evaluated to the same value or failure in all scopes that agree on the names that
stand in it. Evaluation looks a name up in the scope and nowhere else: functions that are called are
found without it.
-/

namespace Formulary

namespace Expr

mutual

/-- The names that stand in an expression, those of called functions included. -/
def names : Expr → List String
  | .literal _ => []
  | .name s => [s]
  | .unary _ e => names e
  | .binary _ a b => names a ++ names b
  | .both a b => names a ++ names b
  | .either a b => names a ++ names b
  | .compare first rest => names first ++ namesCompared rest
  | .choice test yes no => names test ++ names yes ++ names no
  | .call f args named => names f ++ namesListed args ++ namesLabelled named
  | .attribute e _ => names e
  | .item e index => names e ++ names index
  | .slice low high step => namesOptional low ++ namesOptional high ++ namesOptional step
  | .joined parts => namesListed parts
  | .replacement e format => names e ++ namesOptional format
  | .starred e => names e
  | .display _ items => namesListed items
  | .form _ => []

def namesCompared : List (CompareOp × Expr) → List String
  | [] => []
  | (_, e) :: rest => names e ++ namesCompared rest

def namesListed : List Expr → List String
  | [] => []
  | e :: rest => names e ++ namesListed rest

def namesLabelled : List (Option String × Expr) → List String
  | [] => []
  | (_, e) :: rest => names e ++ namesLabelled rest

def namesOptional : Option Expr → List String
  | none => []
  | some e => names e

end

end Expr

def Statement.names : Statement → List String
  | .value e => e.names
  | .form _ => []
  | .importing => []

namespace Scope

/-- Each of the names has the same value in both scopes, or none in both. -/
def AgreesOn (s t : Scope) (names : List String) : Prop := ∀ n ∈ names, s.get? n = t.get? n

variable {s t : Scope} {xs ys : List String}

theorem agreesOn_append :
    s.AgreesOn t (xs ++ ys) ↔ s.AgreesOn t xs ∧ s.AgreesOn t ys := List.forall_mem_append

theorem AgreesOn.valueOf {n : String} (h : s.AgreesOn t [n]) (source : String) :
    Setting.valueOf ⟨s, source⟩ n = Setting.valueOf ⟨t, source⟩ n := by
  have hn : s.get? n = t.get? n := h n List.mem_cons_self
  rw [Setting.valueOf, Setting.valueOf, hn]

end Scope

namespace Expr

variable {s t : Scope} {source : String}

theorem eval_item {env : Setting} (e : Expr) {index : Expr}
    (h : ∀ low high step, index ≠ .slice low high step) :
    (item e index).eval env = (do
      let v ← e.eval env
      let i ← index.eval env
      Value.itemAt v i) := by
  rw [eval]
  exact h

mutual

theorem eval_congr (e : Expr) (h : s.AgreesOn t e.names) :
    e.eval ⟨s, source⟩ = e.eval ⟨t, source⟩ := by
  cases e with
  | literal v => rw [eval, eval]
  | name n => rw [eval, eval, h.valueOf]
  | unary op e =>
    rw [eval, eval, eval_congr e h]
  | binary op a b =>
    obtain ⟨ha, hb⟩ := Scope.agreesOn_append.mp h
    rw [eval, eval, eval_congr a ha, eval_congr b hb]
  | both a b =>
    obtain ⟨ha, hb⟩ := Scope.agreesOn_append.mp h
    rw [eval, eval, eval_congr a ha, eval_congr b hb]
  | either a b =>
    obtain ⟨ha, hb⟩ := Scope.agreesOn_append.mp h
    rw [eval, eval, eval_congr a ha, eval_congr b hb]
  | compare first rest =>
    obtain ⟨hfirst, hrest⟩ := Scope.agreesOn_append.mp h
    rw [eval, eval, eval_congr first hfirst]
    simp only [evalComparisons_congr rest hrest]
  | choice test yes no =>
    obtain ⟨hrest, hno⟩ := Scope.agreesOn_append.mp h
    obtain ⟨htest, hyes⟩ := Scope.agreesOn_append.mp hrest
    rw [eval, eval, eval_congr test htest, eval_congr yes hyes, eval_congr no hno]
  | call f args named =>
    obtain ⟨hrest, hnamed⟩ := Scope.agreesOn_append.mp h
    obtain ⟨hf, hargs⟩ := Scope.agreesOn_append.mp hrest
    cases f with
    | name n =>
      -- the function is found by its name alone
      rw [eval, eval, evalList_congr args hargs, evalNamed_congr named hnamed]
      rfl
    | «attribute» e attr =>
      rw [eval, eval, eval_congr e hf, evalList_congr args hargs, evalNamed_congr named hnamed]
    | _ => rw [eval, eval] <;> exact nofun
  | «attribute» e attr =>
    rw [eval, eval, eval_congr e h]
  | item e index =>
    obtain ⟨he, hindex⟩ := Scope.agreesOn_append.mp h
    have hi := eval_congr index hindex
    cases index with
    | slice low high step =>
      obtain ⟨hrest, hstep⟩ := Scope.agreesOn_append.mp hindex
      obtain ⟨hlow, hhigh⟩ := Scope.agreesOn_append.mp hrest
      rw [eval, eval, eval_congr e he, evalOption_congr low hlow, evalOption_congr high hhigh,
        evalOption_congr step hstep]
    | _ => rw [eval_item e, eval_item e, eval_congr e he, hi] <;> exact nofun
  | slice low high step => rw [eval, eval]
  | joined parts =>
    rw [eval, eval, evalParts_congr parts h]
  | replacement e format =>
    obtain ⟨he, hformat⟩ := Scope.agreesOn_append.mp h
    cases format with
    | none => rw [eval, eval, eval_congr e he]
    | some format => rw [eval, eval, eval_congr e he, eval_congr format hformat]
  | starred e => rw [eval, eval]
  | display kind items => rw [eval, eval]
  | form label => rw [eval, eval]

theorem evalComparisons_congr (rest : List (CompareOp × Expr))
    (h : s.AgreesOn t (namesCompared rest)) (left : Expr) (x : Value) :
    evalComparisons ⟨s, source⟩ left x rest = evalComparisons ⟨t, source⟩ left x rest := by
  cases rest with
  | nil => rw [evalComparisons, evalComparisons]
  | cons c rest =>
    obtain ⟨op, e⟩ := c
    obtain ⟨he, hrest⟩ := Scope.agreesOn_append.mp h
    cases rest with
    | nil => rw [evalComparisons, evalComparisons, eval_congr e he]
    | cons c rest =>
      rw [evalComparisons, evalComparisons, eval_congr e he]
      · simp only [evalComparisons_congr (c :: rest) hrest]
      all_goals exact nofun

theorem evalList_congr (es : List Expr) (h : s.AgreesOn t (namesListed es)) :
    evalList ⟨s, source⟩ es = evalList ⟨t, source⟩ es := by
  cases es with
  | nil => rw [evalList, evalList]
  | cons e rest =>
    obtain ⟨he, hrest⟩ := Scope.agreesOn_append.mp h
    rw [evalList, evalList, eval_congr e he, evalList_congr rest hrest]

theorem evalNamed_congr (es : List (Option String × Expr))
    (h : s.AgreesOn t (namesLabelled es)) :
    evalNamed ⟨s, source⟩ es = evalNamed ⟨t, source⟩ es := by
  cases es with
  | nil => rw [evalNamed, evalNamed]
  | cons labelled rest =>
    obtain ⟨label, e⟩ := labelled
    obtain ⟨he, hrest⟩ := Scope.agreesOn_append.mp h
    rw [evalNamed, evalNamed, eval_congr e he, evalNamed_congr rest hrest]

theorem evalOption_congr (e? : Option Expr) (h : s.AgreesOn t (namesOptional e?)) :
    evalOption ⟨s, source⟩ e? = evalOption ⟨t, source⟩ e? := by
  cases e? with
  | none => rw [evalOption, evalOption]
  | some e => rw [evalOption, evalOption, eval_congr e h]

theorem evalParts_congr (es : List Expr) (h : s.AgreesOn t (namesListed es)) (length : Nat) :
    evalParts ⟨s, source⟩ length es = evalParts ⟨t, source⟩ length es := by
  cases es with
  | nil => rw [evalParts, evalParts]
  | cons e rest =>
    obtain ⟨he, hrest⟩ := Scope.agreesOn_append.mp h
    rw [evalParts, evalParts, eval_congr e he]
    simp only [evalParts_congr rest hrest]

end

end Expr

variable {s t : Scope}

theorem Statement.eval_congr (source : String) (st : Statement) (h : s.AgreesOn t st.names) :
    st.eval ⟨s, source⟩ = st.eval ⟨t, source⟩ := by
  cases st with
  | value e => exact Expr.eval_congr e h
  | form label => rfl
  | importing => rfl

end Formulary
