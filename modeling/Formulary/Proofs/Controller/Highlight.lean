import Formulary.Proofs.Controller.Run

/-!
# The highlighted suggestion

Nothing but an arrow key puts the highlight on a suggestion. Whatever else happens, the highlight goes
or it stays with the whole list, so that `Enter` commits the suggestion that was highlighted last or
what the text reads as, and never another suggestion.
-/

namespace Formulary

/-- A press of an arrow key. -/
def InputEvent.IsArrow : InputEvent → Prop
  | .key name => Key.ofName? name = some .arrowUp ∨ Key.ofName? name = some .arrowDown
  | _ => False

namespace Editor

variable {e e' e'' : Editor}

/-- The highlight is gone, or it is where it was in the list that was there. -/
def Settles (e e' : Editor) : Prop :=
  e'.highlighted = none ∨ (e'.highlighted = e.highlighted ∧ e'.suggestions = e.suggestions)

theorem Settles.refl (e : Editor) : Settles e e := Or.inr ⟨rfl, rfl⟩

theorem Settles.trans (h : Settles e e') (h' : Settles e' e'') : Settles e e'' := by
  rcases h' with hnone | ⟨hhigh, hlist⟩
  · exact Or.inl hnone
  · rcases h with hnone | ⟨hhigh', hlist'⟩
    · exact Or.inl (hhigh.trans hnone)
    · exact Or.inr ⟨hhigh.trans hhigh', hlist.trans hlist'⟩

theorem Settles.highlighted_eq_none (h : Settles e e') (hnone : e.highlighted = none) :
    e'.highlighted = none := by
  rcases h with h | ⟨h, -⟩
  · exact h
  · exact h.trans hnone

theorem Settles.highlightedSuggestion (h : Settles e e') :
    e'.highlightedSuggestion = e.highlightedSuggestion ∨ e'.highlightedSuggestion = none := by
  rcases h with hnone | ⟨hhigh, hlist⟩
  · right
    rw [Editor.highlightedSuggestion, hnone]
    rfl
  · left
    rw [Editor.highlightedSuggestion, hhigh, hlist, Editor.highlightedSuggestion]

theorem settles_refilter (e : Editor) : Settles e e.refilter := by
  rw [refilter_eq]
  by_cases h : Suggestion.fitting e.candidates e.formula = e.suggestions
  · right
    simp only [h, if_true, and_self]
  · left
    simp only [h, if_false]

theorem settles_install (e : Editor) (candidates : List Operand) :
    Settles e (e.install candidates) :=
  settles_refilter { e with candidates }

theorem settles_setFormula (e : Editor) (formula : List Token) :
    Settles e (e.setFormula formula) :=
  settles_refilter { e with formula, cursor := e.cursor.filter (· ≤ formula.length) }

theorem settles_retype (peek : Peek) (e : Editor) (text : String) :
    Settles e (retype peek e text) := by
  rw [retype_eq]
  split
  · exact Or.inr ⟨rfl, rfl⟩
  · exact Or.inl rfl

/-- Whatever commits a token or escapes takes the highlight away before the text is replaced. -/
theorem highlighted_retype (peek : Peek) (h : e.highlighted = none) (text : String) :
    (retype peek e text).highlighted = none :=
  (settles_retype peek e text).highlighted_eq_none h

theorem highlighted_commit (peek : Peek) (e : Editor) (t : Token) :
    (e.commit peek t).highlighted = none := by
  rw [commit_eq]
  exact highlighted_retype peek rfl ""

theorem settles_react (peek : Peek) (e : Editor) {event : InputEvent} (h : ¬ event.IsArrow) :
    Settles e (e.react peek event).editor := by
  have hr := reacted peek e event
  generalize e.react peek event = r at hr ⊢
  cases hr <;> dsimp only
  case idle => exact .refl e
  case clicked => exact Or.inr ⟨rfl, rfl⟩
  case retyped => exact settles_retype peek e _
  case entered => exact Or.inl (highlighted_commit peek e _)
  case selected => exact Or.inl (highlighted_commit peek e _)
  case escaped => exact Or.inl (highlighted_retype peek rfl "")
  case deleted => exact settles_setFormula e _
  case removedLast => exact settles_setFormula e _
  case edited => exact (settles_setFormula e _).trans (settles_retype peek _ _)
  case moved hname hk _ =>
    rcases hk with ⟨rfl, -⟩ | ⟨rfl, -⟩
    · exact absurd (Or.inr hname) h
    · exact absurd (Or.inl hname) h

end Editor

namespace Controller

open Editor (Settles)

variable {x : Operand}

/-- A press of an arrow key. -/
def Move.IsArrow : Move → Prop
  | .input _ event => event.IsArrow
  | _ => False

theorem settles_resume (c : Controller) (id : Nat) :
    Settles c.editor (c.resume id).value.1.editor := by
  have hr := resumed c id
  generalize (c.resume id).value.1 = d at hr ⊢
  cases hr with
  | waiting | cancelled | stale => exact .refl _
  | taken => exact Editor.settles_install c.editor _

theorem settles_move (c : Controller) {m : Move} (h : ¬ m.IsArrow) :
    Settles c.editor (c.move m).editor := by
  cases m with
  | input live event =>
    rw [move, handle_editor]
    exact Editor.settles_react _ _ h
  | apply key candidates =>
    rw [move, apply_value]
    split
    · exact Editor.settles_install c.editor candidates
    · exact .refl _
  | schedule | provider => exact .refl _
  | resume id => exact settles_resume c id
  | start id =>
    rw [move]
    rcases start_value c id with heq | ⟨-, heq⟩
    · rw [heq]
      exact .refl _
    · have hask := settles_resume (c.ask id) id
      rw [editor_ask] at hask
      rwa [heq]

theorem settles_run (c : Controller) {moves : List Move} (h : ∀ m ∈ moves, ¬ m.IsArrow) :
    Settles c.editor (c.run moves).editor := by
  induction moves generalizing c with
  | nil => exact .refl _
  | cons m rest ih =>
    have hm : ¬ m.IsArrow := h m List.mem_cons_self
    have hrest : ∀ n ∈ rest, ¬ n.IsArrow := fun n hn => h n (List.mem_cons_of_mem m hn)
    exact (settles_move c hm).trans (ih (c.move m) hrest)

/-- `Enter` puts the highlighted suggestion at the cursor, or else what the text reads as. -/
theorem formula_enter (c : Controller) (live : Bool) (h : Text.trim c.editor.text ≠ "") :
    (c.move (.input live (.key Key.enter.name))).editor.formula =
      Formula.insert c.editor.formula c.editor.entered (c.editor.cursor.map Int.ofNat) := by
  have hr : c.editor.react c.provider.peek (.key Key.enter.name) =
      c.editor.enter c.provider.peek := rfl
  rw [move, handle_editor, hr, Editor.enter_eq c.provider.peek h]
  exact Editor.commit_formula c.provider.peek c.editor c.editor.entered

/-- As long as no arrow key is pressed, a suggestion that is highlighted stays so or none is. `Enter`
then inserts this suggestion while it is highlighted, and what the text reads as otherwise. -/
theorem enter_inserts_highlighted (provider : Provider) (moves : List Move)
    (hx : (run { provider } moves).editor.highlightedSuggestion = some x) :
    let c := run { provider } moves
    (∀ m : Move, ¬ m.IsArrow →
      (c.move m).editor.highlightedSuggestion = some x ∨
        (c.move m).editor.highlightedSuggestion = none) ∧
      ∀ between : List Move, (∀ m ∈ between, ¬ m.IsArrow) →
        let e := (c.run between).editor
        Text.trim e.text ≠ "" →
          ∃ t, (e.highlightedSuggestion = some x ∧ t = .operand x ∨
              e.highlightedSuggestion = none ∧ t = Token.ofText (Text.trim e.text)) ∧
            ∀ live, ((c.run between).move (.input live (.key Key.enter.name))).editor.formula =
              Formula.insert e.formula t (e.cursor.map Int.ofNat) := by
  intro c
  refine ⟨?_, ?_⟩
  · intro m hm
    have h := (settles_move c hm).highlightedSuggestion
    rwa [hx] at h
  · intro between hbetween e htext
    have h := (settles_run c hbetween).highlightedSuggestion
    rw [hx] at h
    refine ⟨e.entered, ?_, fun live => formula_enter (c.run between) live htext⟩
    rcases h with hsome | hnone
    · left
      refine ⟨hsome, ?_⟩
      simp only [Editor.entered, e, hsome]
    · right
      refine ⟨hnone, ?_⟩
      simp only [Editor.entered, e, hnone]

/-- A provider that knows two candidates of one query. -/
def knowing : Provider :=
  { cache := {
      capacity := 1
      entries := [("a", {
        status := .success
        data := [{ name := "a", id := some "1" }, { name := "a", id := some "2" }] })] } }

/-- The second of two candidates with one name is highlighted. -/
def highlightingMoves : List Move :=
  [.input true (.text "a"), .input true (.key "ArrowUp")]

/-- A refresh takes the same candidates over again, the cache is emptied, and a blank is typed. -/
def quietMoves : List Move :=
  [.start 0, .provider (.invalidate none), .input true (.text " a")]

theorem enter_inserts_highlighted_second :
    (run { provider := knowing } highlightingMoves).editor.highlightedSuggestion =
        some { name := "a", id := some "2" } ∧
      (((run { provider := knowing } highlightingMoves).run quietMoves).move
          (.input true (.key Key.enter.name))).editor.formula =
        [.operand { name := "a", id := some "2" }] := by
  have hx : (run { provider := knowing } highlightingMoves).editor.highlightedSuggestion =
      some { name := "a", id := some "2" } := by decide +kernel
  have hquiet : ∀ m ∈ quietMoves, ¬ m.IsArrow := by
    simp [quietMoves, Move.IsArrow, InputEvent.IsArrow]
  have htext : Text.trim ((run { provider := knowing } highlightingMoves).run
      quietMoves).editor.text ≠ "" := by decide +kernel
  have hkept : ((run { provider := knowing } highlightingMoves).run
      quietMoves).editor.highlightedSuggestion ≠ none := by decide +kernel
  have h := enter_inserts_highlighted knowing highlightingMoves hx
  obtain ⟨t, ⟨-, rfl⟩ | ⟨hnone, -⟩, hformula⟩ := h.2 quietMoves hquiet htext
  · refine ⟨hx, (hformula true).trans ?_⟩
    decide +kernel
  · exact absurd hnone hkept

end Controller

end Formulary
