import Formulary.Proofs.CommandLine.Call
import Formulary.Proofs.Controller.Independence

/-!
# Typed formulas and formulas of a call

A formula that is typed text by text has the tokens that a call makes of the texts, whatever becomes of
the suggestions meanwhile. The call prints what the editor then shows, with one exception: where a value
cannot be displayed, the editor shows why it cannot, and the call breaks off.
-/

namespace Formulary

/-! ## Typing a formula -/

namespace Editor

/-- The editor behind an event when there are no suggestions. -/
def alone (e : Editor) (event : InputEvent) : Editor := (e.react noPeek event).editor.bare

theorem alone_text (formula : List Token) (t : String) :
    alone { formula } (.text t) = { formula, text := t } := by
  simp [alone, react, bare]

theorem alone_enter (formula : List Token) {t : String} (h : Text.trim t ≠ "") :
    alone { formula, text := t } (.key Key.enter.name) =
      { formula := formula ++ [Token.ofText (Text.trim t)] } := by
  let e : Editor := { formula, text := t }
  have hkey : Key.ofName? Key.enter.name = some .enter := by decide
  have henter : e.enter noPeek = { editor := e.commit noPeek e.entered, retyped := true } :=
    enter_eq (e := e) noPeek h
  have hcommitted : e.entered = Token.ofText (Text.trim t) := entered_of_unhighlighted (e := e) rfl
  change (e.react noPeek _).editor.bare = _
  simp only [react, hkey, press, henter, hcommitted]
  simp [e, bare, commit_formula, commit_text, commit_cursor, Formula.insert]

end Editor

/-- What a user does who types texts and enters each. -/
def typing (texts : List String) : List InputEvent :=
  texts.flatMap fun t => [.text t, .key Key.enter.name]

theorem not_navigates_of_mem_typing {texts : List String} {event : InputEvent}
    (h : event ∈ typing texts) : ¬ event.Navigates := by
  obtain ⟨t, -, h⟩ := List.mem_flatMap.mp h
  simp only [List.mem_cons, List.not_mem_nil, or_false] at h
  rcases h with rfl | rfl
  · exact fun h => h
  · simp only [InputEvent.Navigates, InputEvent.IsArrow]
    decide

/-- The text is entered as it is typed: it is not empty, and has no blanks around it. -/
def Typable (t : String) : Prop := t ≠ "" ∧ Text.trim t = t

theorem Editor.foldl_alone_typing (formula : List Token) {texts : List String}
    (h : ∀ t ∈ texts, Typable t) :
    (typing texts).foldl alone { formula } = { formula := formula ++ texts.map Token.ofText } := by
  induction texts generalizing formula with
  | nil => simp [typing]
  | cons t rest ih =>
    obtain ⟨hne, htrim⟩ := h t List.mem_cons_self
    have hrest : ∀ t ∈ rest, Typable t := fun t ht => h t (List.mem_cons_of_mem _ ht)
    have hblank : Text.trim t ≠ "" := by rwa [htrim]
    have htyping : typing (t :: rest) = .text t :: .key Key.enter.name :: typing rest := rfl
    rw [htyping, List.foldl_cons, List.foldl_cons, alone_text, alone_enter formula hblank, htrim,
      ih _ hrest]
    simp

namespace Controller

variable {c : Controller}

/-- Suggestions apart, the editor behind a run without navigation is the one that its inputs alone
lead to. -/
theorem bare_run (moves : List Move) (h : c.editor.highlighted = none)
    (hmoves : ∀ event ∈ inputs moves, ¬ event.Navigates) :
    (c.run moves).editor.bare = (inputs moves).foldl Editor.alone c.editor.bare := by
  induction moves generalizing c with
  | nil => rfl
  | cons m rest ih =>
    cases hm : m.input? with
    | none =>
      have hinputs : inputs (m :: rest) = inputs rest := List.filterMap_cons_none hm
      rw [hinputs] at hmoves ⊢
      rw [← bare_move_of_input?_eq_none c hm]
      exact ih (unhighlighted_move h (by simp [hm])) hmoves
    | some event =>
      have hinputs : inputs (m :: rest) = event :: inputs rest := List.filterMap_cons_some hm
      rw [hinputs] at hmoves ⊢
      obtain ⟨hevent, hrest⟩ := List.forall_mem_cons.mp hmoves
      rw [List.foldl_cons, Editor.alone, ← bare_move_of_input?_eq_some hm h hevent]
      exact ih (unhighlighted_move h (by simpa [hm] using hevent)) hrest

theorem formula_run_typing (provider : Provider) {texts : List String}
    (h : ∀ t ∈ texts, Typable t) {moves : List Move} (hmoves : inputs moves = typing texts) :
    (run { provider } moves).editor.formula = texts.map Token.ofText := by
  have hquiet : ∀ event ∈ inputs moves, ¬ event.Navigates := by
    rw [hmoves]
    exact fun event => not_navigates_of_mem_typing
  have hbare := bare_run (c := { provider }) moves rfl hquiet
  have htyped : (typing texts).foldl Editor.alone ({} : Editor).bare =
      { formula := texts.map Token.ofText } := Editor.foldl_alone_typing [] h
  rw [hmoves, htyped] at hbare
  exact congrArg Editor.formula hbare

end Controller

/-! ## What a call prints of it -/

namespace CommandLine

open Controller (inputs)

variable {c : Config} {texts : List String}

theorem evalReport_of_error {e : EvaluationFailure}
    (he : Formula.compute c.scope (texts.map Token.ofText) = .error e) :
    evalReport c ⟨false⟩ texts = { exit := .ok 1, err := e.message ++ "\n" } := by
  simp only [evalReport, he, errorLine, Palette.paint_plain]

/-- Without colours, a call prints what the editor shows behind a run in which its texts are typed: on
one channel or the other, by whether the formula has a value. It breaks off for exactly the values that
cannot be displayed, of which the editor shows the reason. -/
theorem call_prints_what_is_shown (c : Config) (provider : Provider) (hne : texts ≠ [])
    (h : ∀ t ∈ texts, Typable t) {moves : List Controller.Move}
    (hmoves : inputs moves = typing texts) :
    let shown := (Controller.run { provider } moves).editor.shown c.scope
    shown.formula = texts.map Token.ofText ∧
      (∀ e, Formula.compute c.scope shown.formula = .error e →
        evalReport c ⟨false⟩ texts = { exit := .ok 1, err := shown.result ++ "\n" }) ∧
      ∀ v, Formula.compute c.scope shown.formula = .ok v →
        (v.Displayable → evalReport c ⟨false⟩ texts = { out := shown.result ++ "\n" }) ∧
          (¬ v.Displayable → evalReport c ⟨false⟩ texts = .aborted (.value .tooManyDigits) ∧
            shown.result = EvaluationFailure.message ⟨"", EvalError.tooManyDigits.describe⟩) := by
  intro shown
  have hformula : shown.formula = texts.map Token.ofText :=
    Controller.formula_run_typing provider h hmoves
  have hresult : shown.result = Formula.evaluate c.scope (texts.map Token.ofText) := by
    rw [Editor.shown_result, hformula]
  have hne' : texts.map Token.ofText ≠ [] := by simpa using hne
  rw [hformula, hresult]
  refine ⟨rfl, fun e he => ?_, fun v hv => ?_⟩
  · rw [Formula.evaluate_of_error hne' he]
    exact evalReport_of_error he
  · rw [Formula.evaluate_of_ok hne' hv]
    refine ⟨fun hdisplayable => evalReport_of_displayable hv hdisplayable _, fun hdisplayable => ?_⟩
    refine ⟨evalReport_of_not_displayable hv hdisplayable _, ?_⟩
    rw [Value.display, Value.display?_of_not_displayable hdisplayable]

/-- A text is typed while candidates for it are known and others are handed over. -/
theorem call_prints_what_is_shown_offering :
    let c : Config := { scope := [("a", .int 5)] }
    let behind := Controller.run { provider := Controller.knowing } Controller.offeringMoves
    let shown := behind.editor.shown c.scope
    inputs Controller.offeringMoves = typing ["a"] ∧ shown.formula = ["a"].map Token.ofText ∧
      evalReport c ⟨false⟩ ["a"] = { out := shown.result ++ "\n" } := by
  intro c behind shown
  have hmoves : inputs Controller.offeringMoves = typing ["a"] := rfl
  have htypable : ∀ t ∈ ["a"], Typable t := by
    intro t ht
    rw [List.mem_singleton.mp ht]
    exact ⟨by decide, by decide +kernel⟩
  obtain ⟨hformula, -, hvalue⟩ :=
    call_prints_what_is_shown c Controller.knowing (List.cons_ne_nil _ _) htypable hmoves
  have hfive : Formula.compute c.scope (["a"].map Token.ofText) = .ok (.int 5) := by
    with_unfolding_all rfl
  exact ⟨hmoves, hformula, (hvalue (.int 5) (hformula ▸ hfive)).1 trivial⟩

/-- A ratio of integers is a value that a call may not be able to print. -/
theorem call_breaks_off_at_long_ratio :
    ¬ ∀ (c : Config) (texts : List String), texts ≠ [] → (∀ t ∈ texts, Typable t) →
      ∃ n, (evalReport c ⟨false⟩ texts).exit = .ok n := by
  intro h
  have htypable : ∀ t ∈ ["(10^5000).as_integer_ratio()"], Typable t := by
    intro t ht
    rw [List.mem_singleton.mp ht]
    exact ⟨by decide, by decide +kernel⟩
  obtain ⟨n, hn⟩ := h {} ["(10^5000).as_integer_ratio()"] (List.cons_ne_nil _ _) htypable
  have hexit : (evalReport {} ⟨false⟩ ["(10^5000).as_integer_ratio()"]).exit =
    .error (.value .tooManyDigits) := by decide +kernel
  rw [hexit] at hn
  cases hn

end CommandLine

end Formulary
