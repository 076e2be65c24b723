import Formulary.Formula.Evaluate
import Formulary.Proofs.Controller.Highlight

/-!
# Formulas do not depend on suggestions

As long as the user neither moves the highlight nor picks a suggestion, an editor does to its formula
what an editor does that never hears of any candidates. So the source, the cache and the moments at
which answers arrive leave no trace in the formula, and two runs with the same events agree on it.
-/

namespace Formulary

/-- The event moves the highlight or picks a suggestion. -/
def InputEvent.Navigates : InputEvent → Prop
  | .select _ => True
  | event => event.IsArrow

theorem InputEvent.navigates_of_isArrow {event : InputEvent} (h : event.IsArrow) :
    event.Navigates := by
  cases event with
  | key name => exact h
  | text | click | select | action => exact h.elim

namespace Editor

variable {e : Editor}

/-- The editor with all that has to do with suggestions left out. -/
def bare (e : Editor) : Editor := { formula := e.formula, text := e.text, cursor := e.cursor }

theorem bare_eq_iff {e e' : Editor} :
    e.bare = e'.bare ↔ e.formula = e'.formula ∧ e.text = e'.text ∧ e.cursor = e'.cursor := by
  simp [bare]

@[simp] theorem bare_formula (e : Editor) : e.bare.formula = e.formula := rfl

@[simp] theorem bare_text (e : Editor) : e.bare.text = e.text := rfl

@[simp] theorem bare_cursor (e : Editor) : e.bare.cursor = e.cursor := rfl

theorem bare_install (e : Editor) (candidates : List Operand) :
    (e.install candidates).bare = e.bare := by
  rw [bare_eq_iff, install, refilter_formula, refilter_text, refilter_cursor]
  exact ⟨rfl, rfl, rfl⟩

/-- What is known when there is no source at all. -/
def noPeek : Peek := fun _ => []

theorem bare_retype (peek : Peek) (e : Editor) (text : String) :
    (retype peek e text).bare = (retype noPeek e.bare text).bare := by
  simp [bare_eq_iff]

theorem bare_setFormula (e : Editor) (formula : List Token) :
    (e.setFormula formula).bare = (e.bare.setFormula formula).bare := by
  simp [bare_eq_iff]

theorem bare_commit (peek : Peek) (e : Editor) (t : Token) :
    (e.commit peek t).bare = (e.bare.commit noPeek t).bare := by
  simp [bare_eq_iff, commit_formula, commit_text, commit_cursor]

theorem entered_of_unhighlighted (h : e.highlighted = none) :
    e.entered = Token.ofText (Text.trim e.text) := by
  simp [entered, highlightedSuggestion, h]

theorem bare_enter (peek : Peek) (h : e.highlighted = none) :
    (e.enter peek).editor.bare = (e.bare.enter noPeek).editor.bare := by
  by_cases htext : Text.trim e.text = ""
  · have hidle : e.enter peek = { editor := e } := by simp [enter, htext]
    have hidle' : e.bare.enter noPeek = { editor := e.bare } := by simp [enter, htext]
    rw [hidle, hidle']
    rfl
  · have htoken : e.bare.entered = e.entered := by
      rw [entered_of_unhighlighted h, entered_of_unhighlighted rfl, bare_text]
    have htext' : Text.trim e.bare.text ≠ "" := htext
    rw [enter_eq peek htext, enter_eq noPeek htext', htoken]
    dsimp only
    exact bare_commit peek e e.entered

theorem bare_backspace (e : Editor) : e.backspace.editor.bare = e.bare.backspace.editor.bare := by
  by_cases htext : e.text = ""
  · simp [backspace, htext, bare_eq_iff]
  · simp [backspace, htext, bare_eq_iff]

theorem bare_act (peek : Peek) (e : Editor) (i : Int) (a : TokenAction) :
    (e.act peek i a).editor.bare = (e.bare.act noPeek i a).editor.bare := by
  cases a with
  | delete => exact bare_setFormula e _
  | edit =>
    cases ht : at? e.formula i with
    | none => simp [act, ht, bare_eq_iff]
    | some t => simp [act, ht, bare_eq_iff]

/-- What an event does to a formula is the same with suggestions and without. -/
theorem bare_react (peek : Peek) (h : e.highlighted = none) {event : InputEvent}
    (hevent : ¬ event.Navigates) :
    (e.react peek event).editor.bare = (e.bare.react noPeek event).editor.bare := by
  cases event with
  | text s =>
    simp only [react]
    exact bare_retype peek e s
  | click i => rfl
  | select i => exact absurd trivial hevent
  | action i name =>
    cases hname : TokenAction.ofName? name with
    | none => simp [react, hname, bare_eq_iff]
    | some a => simpa only [react, hname] using bare_act peek e i a
  | key name =>
    cases hname : Key.ofName? name with
    | none => simp [react, hname, bare_eq_iff]
    | some k =>
      cases k <;> simp only [react, hname, press]
      case enter => exact bare_enter peek h
      case backspace => exact bare_backspace e
      case escape => simp [bare_eq_iff]
      case arrowDown => exact absurd (Or.inr hname) hevent
      case arrowUp => exact absurd (Or.inl hname) hevent

end Editor

/-- What shows of a formula that is edited, suggestions apart. -/
structure Shown where
  formula : List Token
  text : String
  cursor : Option Nat
  result : String
deriving DecidableEq, Repr

def Editor.shown (scope : Scope) (e : Editor) : Shown :=
  ⟨e.formula, e.text, e.cursor, Formula.evaluate scope e.formula⟩

theorem Editor.shown_result (scope : Scope) (e : Editor) :
    (e.shown scope).result = Formula.evaluate scope (e.shown scope).formula := by
  rw [Editor.shown]

theorem Editor.shown_bare (scope : Scope) (e : Editor) : e.bare.shown scope = e.shown scope := rfl

namespace Controller

variable {c : Controller}

/-- The event of the user that a move is. -/
def Move.input? : Move → Option InputEvent
  | .input _ event => some event
  | _ => none

/-- The events of the user in a run. -/
def inputs (moves : List Move) : List InputEvent := moves.filterMap Move.input?

/-- The editors behind the events of a run. -/
def editorsAfterInputs (c : Controller) : List Move → List Editor
  | [] => []
  | m :: rest =>
    let behind := editorsAfterInputs (c.move m) rest
    if m.input?.isSome then (c.move m).editor :: behind else behind

/-- The editors behind some events when there are no suggestions. -/
def bareEditors (e : Editor) : List InputEvent → List Editor
  | [] => []
  | event :: rest =>
    let e' := (e.react Editor.noPeek event).editor.bare
    e' :: bareEditors e' rest

theorem bare_resume (c : Controller) (id : Nat) :
    (c.resume id).value.1.editor.bare = c.editor.bare := by
  have hr := resumed c id
  generalize (c.resume id).value.1 = d at hr ⊢
  cases hr with
  | waiting | cancelled | stale => rfl
  | taken => exact Editor.bare_install c.editor _

/-- Refreshes, the provider and whoever hands candidates over leave the formula alone. -/
theorem bare_move_of_input?_eq_none (c : Controller) {m : Move} (h : m.input? = none) :
    (c.move m).editor.bare = c.editor.bare := by
  cases m with
  | input live event => cases h
  | apply key candidates =>
    rw [move, apply_value]
    split
    · exact Editor.bare_install c.editor candidates
    · rfl
  | schedule | provider => rfl
  | resume id => exact bare_resume c id
  | start id =>
    rw [move]
    rcases start_value c id with heq | ⟨-, heq⟩
    · rw [heq]
    · rw [heq, bare_resume, editor_ask]

theorem bare_move_input (live : Bool) (h : c.editor.highlighted = none) {event : InputEvent}
    (hevent : ¬ event.Navigates) :
    (c.move (.input live event)).editor.bare =
      (c.editor.bare.react Editor.noPeek event).editor.bare := by
  rw [move, handle_editor]
  exact Editor.bare_react c.provider.peek h hevent

theorem bare_move_of_input?_eq_some {m : Move} {event : InputEvent} (hm : m.input? = some event)
    (h : c.editor.highlighted = none) (hevent : ¬ event.Navigates) :
    (c.move m).editor.bare = (c.editor.bare.react Editor.noPeek event).editor.bare := by
  cases m with
  | input live event' =>
    cases hm
    exact bare_move_input live h hevent
  | apply | schedule | start | resume | provider => cases hm

theorem unhighlighted_move (h : c.editor.highlighted = none) {m : Move}
    (hm : ∀ event ∈ m.input?, ¬ event.Navigates) : (c.move m).editor.highlighted = none := by
  refine (settles_move c ?_).highlighted_eq_none h
  intro harrow
  cases m with
  | input live event => exact hm event rfl (InputEvent.navigates_of_isArrow harrow)
  | apply | schedule | start | resume | provider => exact harrow.elim

/-- A run without navigation goes through the formulas of an editor without suggestions. -/
theorem bare_editorsAfterInputs (moves : List Move) (h : c.editor.highlighted = none)
    (hmoves : ∀ event ∈ inputs moves, ¬ event.Navigates) :
    (editorsAfterInputs c moves).map Editor.bare = bareEditors c.editor.bare (inputs moves) := by
  induction moves generalizing c with
  | nil => rfl
  | cons m rest ih =>
    cases hm : m.input? with
    | none =>
      have hinputs : inputs (m :: rest) = inputs rest := List.filterMap_cons_none hm
      have hhigh : (c.move m).editor.highlighted = none :=
        unhighlighted_move h (by simp [hm])
      rw [hinputs] at hmoves ⊢
      rw [editorsAfterInputs, hm, ← bare_move_of_input?_eq_none c hm]
      exact ih hhigh hmoves
    | some event =>
      have hinputs : inputs (m :: rest) = event :: inputs rest := List.filterMap_cons_some hm
      rw [hinputs] at hmoves ⊢
      have hevent : ¬ event.Navigates := hmoves event List.mem_cons_self
      have hhigh : (c.move m).editor.highlighted = none :=
        unhighlighted_move h (by simpa [hm] using hevent)
      have hbare := bare_move_of_input?_eq_some hm h hevent
      have hrest := ih hhigh fun event' h' => hmoves event' (List.mem_cons_of_mem event h')
      rw [editorsAfterInputs, hm, bareEditors, ← hbare, ← hrest]
      rfl

/-- Two runs in which the user does the same, without moving the highlight or picking a suggestion,
show the same formula, text, cursor and result after every event, whatever the providers, their caches
and the moments of all other moves are. -/
theorem formula_independent_of_suggestions (scope : Scope) (provider provider' : Provider)
    {moves moves' : List Move} (hinputs : inputs moves = inputs moves')
    (hmoves : ∀ event ∈ inputs moves, ¬ event.Navigates) :
    (editorsAfterInputs { provider } moves).map (Editor.shown scope) =
      (editorsAfterInputs { provider := provider' } moves').map (Editor.shown scope) := by
  have hbare := bare_editorsAfterInputs (c := { provider }) moves rfl hmoves
  rw [hinputs] at hmoves
  have hbare' := bare_editorsAfterInputs (c := { provider := provider' }) moves' rfl hmoves
  have hshown (es : List Editor) :
      es.map (Editor.shown scope) = (es.map Editor.bare).map (Editor.shown scope) := by
    rw [List.map_map]
    exact List.map_congr_left fun e _ => (Editor.shown_bare scope e).symm
  rw [hshown, hshown (editorsAfterInputs { provider := provider' } moves'), hbare, hbare', hinputs]

/-- A text is entered while its request fails. -/
def failingMoves : List Move :=
  [.input true (.text "a"), .start 0, .provider (.call 0),
    .provider (.receive 0 (.failure (some 500) none)), .provider (.settle 0), .resume 0,
    .input true (.key "Enter")]

/-- The same text is entered while candidates for it are known and others are handed over. -/
def offeringMoves : List Move :=
  [.input false (.text "a"), .apply "a" [{ name := "+" }], .provider (.invalidate none),
    .input true (.key "Enter")]

theorem formula_independent_of_suggestions_failing :
    inputs failingMoves = inputs offeringMoves ∧
      (editorsAfterInputs { provider := knowing } offeringMoves).map (Editor.shown .default) =
        (editorsAfterInputs {} failingMoves).map (Editor.shown .default) ∧
      (editorsAfterInputs {} failingMoves).map (·.formula) =
        [[], [.operand { name := "a" }]] := by
  have hinputs : inputs failingMoves = inputs offeringMoves := rfl
  have hmoves : ∀ event ∈ inputs offeringMoves, ¬ event.Navigates := by
    simp [inputs, offeringMoves, Move.input?, InputEvent.Navigates, InputEvent.IsArrow]
    decide
  refine ⟨hinputs,
    formula_independent_of_suggestions .default knowing {} hinputs.symm hmoves, ?_⟩
  decide +kernel

end Controller

end Formulary
