import Formulary.Proofs.Controller.Independence
import Formulary.Proofs.Editor.Effect

/-!
# What a move touches

What the moves of a controller do to the formula, the text, the cursor, the highlight and the focus, in
every state that a run leads to: one token comes or goes with the events that say so, an arrow key
moves the highlight and nothing else, and whatever goes on in the background shows in the suggestions
only.
-/

namespace Formulary.Controller

open Editor (Valid)

variable {c : Controller} {event : InputEvent} {m : Move}

/-- The move is an event of the user of this kind. -/
def Move.IsEvent (P : InputEvent → Prop) (m : Move) : Prop := ∃ event ∈ m.input?, P event

theorem Move.eq_input (h : m.input? = some event) : ∃ live, m = .input live event := by
  cases m with
  | input live event =>
    cases h
    exact ⟨live, rfl⟩
  | apply | schedule | start | resume | provider => cases h

theorem handle_focusCount (c : Controller) (live : Bool) (event : InputEvent) :
    (c.handle live event).1.focusCount =
      c.focusCount + (c.editor.react c.provider.peek event).focus.toNat := by
  unfold handle
  dsimp only
  split <;> rfl

/-- An event that fetches nothing only changes the editor and the focus. -/
theorem handle_of_not_retyped (live : Bool)
    (h : (c.editor.react c.provider.peek event).retyped = false) :
    (c.handle live event).1 = { c with
      editor := (c.editor.react c.provider.peek event).editor
      focusCount := c.focusCount + (c.editor.react c.provider.peek event).focus.toNat } := by
  simp [handle, h]

theorem focusCount_resume (c : Controller) (id : Nat) :
    (c.resume id).value.1.focusCount = c.focusCount := by
  have hr := resumed c id
  generalize (c.resume id).value.1 = d at hr ⊢
  cases hr <;> rfl

theorem focusCount_of_input?_eq_none (c : Controller) (h : m.input? = none) :
    (c.move m).focusCount = c.focusCount := by
  cases m with
  | input => cases h
  | apply key candidates =>
    rw [move, apply_value]
    split <;> rfl
  | schedule | provider => rfl
  | resume id => exact focusCount_resume c id
  | start id =>
    rw [move]
    rcases start_value c id with heq | ⟨-, heq⟩
    · rw [heq]
    · rw [heq, focusCount_resume]
      simp only [ask]

/-- As long as the user does nothing, formula, text and cursor stay. -/
theorem bare_run_of_input?_eq_none (c : Controller) {moves : List Move}
    (h : ∀ m ∈ moves, m.input? = none) : (c.run moves).editor.bare = c.editor.bare := by
  induction moves generalizing c with
  | nil => rfl
  | cons m rest ih =>
    obtain ⟨hm, hrest⟩ := List.forall_mem_cons.mp h
    exact (ih (c.move m) hrest).trans (bare_move_of_input?_eq_none c hm)

theorem oneMore_of_inserts (h : m.IsEvent c.editor.Inserts) :
    Formula.OneMore c.editor.formula (c.move m).editor.formula := by
  obtain ⟨event, hm, hinserts⟩ := h
  obtain ⟨live, rfl⟩ := Move.eq_input hm
  rw [move, handle_editor]
  exact hinserts.oneMore c.provider.peek

theorem oneMore_of_removes (h : m.IsEvent c.editor.Removes) :
    Formula.OneMore (c.move m).editor.formula c.editor.formula := by
  obtain ⟨event, hm, hremoves⟩ := h
  obtain ⟨live, rfl⟩ := Move.eq_input hm
  rw [move, handle_editor]
  exact hremoves.oneMore c.provider.peek

/-- A move that neither puts a token in nor takes one out leaves the formula alone, and a cursor in a
formula stays where it is unless it is placed. -/
theorem move_frame (hvalid : c.editor.Valid) (hinsert : ¬ m.IsEvent c.editor.Inserts)
    (hremove : ¬ m.IsEvent c.editor.Removes) :
    (c.move m).editor.formula = c.editor.formula ∧
      (c.editor.formula ≠ [] → (∀ i, m.input? ≠ some (.click i)) →
        (c.move m).editor.cursor = c.editor.cursor) := by
  cases hm : m.input? with
  | none =>
    obtain ⟨hformula, -, hcursor⟩ := Editor.bare_eq_iff.mp (bare_move_of_input?_eq_none c hm)
    exact ⟨hformula, fun _ _ => hcursor⟩
  | some event =>
    obtain ⟨live, rfl⟩ := Move.eq_input hm
    have hinsert' : ¬ c.editor.Inserts event := fun h => hinsert ⟨event, hm, h⟩
    have hremove' : ¬ c.editor.Removes event := fun h => hremove ⟨event, hm, h⟩
    obtain ⟨hformula, hcursor⟩ := Editor.react_frame c.provider.peek hvalid hinsert' hremove'
    rw [move, handle_editor]
    refine ⟨hformula, fun hne hclick => hcursor hne ?_⟩
    rintro i rfl
    exact hclick i rfl

theorem move_of_ignores (hvalid : c.editor.Valid) (h : c.editor.Ignores event) (live : Bool) :
    c.move (.input live event) = c := by
  have hreact := h.react_eq hvalid c.provider.peek
  rw [move, handle_of_not_retyped live (by rw [hreact]), hreact]
  rfl

theorem move_of_isArrow (c : Controller) (h : event.IsArrow) (live : Bool) :
    ∃ highlighted, c.move (.input live event) =
      { c with editor := { c.editor with highlighted } } := by
  cases event with
  | key name =>
    obtain ⟨k, hname, hk⟩ : ∃ k, Key.ofName? name = some k ∧ (k = .arrowUp ∨ k = .arrowDown) := by
      rcases h with h | h
      · exact ⟨_, h, Or.inl rfl⟩
      · exact ⟨_, h, Or.inr rfl⟩
    obtain ⟨highlighted, heditor, hretyped, hfocus⟩ :=
      Editor.react_arrow c.provider.peek c.editor hname hk
    refine ⟨highlighted, ?_⟩
    rw [move, handle_of_not_retyped live hretyped, heditor, hfocus]
    rfl
  | text | click | select | action => exact h.elim

theorem focusCount_move_of_refocuses (h : m.IsEvent c.editor.Refocuses) :
    (c.move m).focusCount = c.focusCount + 1 := by
  obtain ⟨event, hm, hrefocuses⟩ := h
  obtain ⟨live, rfl⟩ := Move.eq_input hm
  have hfocus := (Editor.react_focus_iff c.provider.peek c.editor event).mpr hrefocuses
  rw [move, handle_focusCount, hfocus, Bool.toNat_true]

theorem focusCount_move_of_not_refocuses (h : ¬ m.IsEvent c.editor.Refocuses) :
    (c.move m).focusCount = c.focusCount := by
  cases hm : m.input? with
  | none => exact focusCount_of_input?_eq_none c hm
  | some event =>
    obtain ⟨live, rfl⟩ := Move.eq_input hm
    have hfocus : (c.editor.react c.provider.peek event).focus = false := by
      rw [← Bool.not_eq_true, Editor.react_focus_iff]
      exact fun hrefocuses => h ⟨event, hm, hrefocuses⟩
    rw [move, handle_focusCount, hfocus, Bool.toNat_false, Nat.add_zero]

/-- In every state that a run leads to: exactly the events that insert put one token in, exactly those
that remove take one out, and all other tokens keep their order. A move in the background leaves the
formula, the text, the cursor and the focus alone. An arrow key changes the highlight and nothing else,
an event that is ignored changes nothing, and the focus is asked for by exactly the events that say
so. -/
theorem moves_touch_no_more (provider : Provider) (moves : List Move) :
    let c := run { provider } moves
    (∀ m : Move,
      (m.IsEvent c.editor.Inserts →
        Formula.OneMore c.editor.formula (c.move m).editor.formula) ∧
      (m.IsEvent c.editor.Removes →
        Formula.OneMore (c.move m).editor.formula c.editor.formula) ∧
      (¬ m.IsEvent c.editor.Inserts → ¬ m.IsEvent c.editor.Removes →
        (c.move m).editor.formula = c.editor.formula)) ∧
    (∀ m : Move, m.input? = none →
      (c.move m).editor.formula = c.editor.formula ∧ (c.move m).editor.text = c.editor.text ∧
        (c.move m).editor.cursor = c.editor.cursor ∧ (c.move m).focusCount = c.focusCount) ∧
    (∀ live event, event.IsArrow → ∃ highlighted,
      c.move (.input live event) = { c with editor := { c.editor with highlighted } }) ∧
    (∀ live event, c.editor.Ignores event → c.move (.input live event) = c) ∧
    ∀ m : Move,
      (m.IsEvent c.editor.Refocuses → (c.move m).focusCount = c.focusCount + 1) ∧
        (¬ m.IsEvent c.editor.Refocuses → (c.move m).focusCount = c.focusCount) := by
  intro c
  have hvalid : c.editor.Valid := valid_run Editor.valid_new moves
  refine ⟨?_, ?_, ?_, ?_, ?_⟩
  · exact fun m => ⟨oneMore_of_inserts, oneMore_of_removes,
      fun hinsert hremove => (move_frame hvalid hinsert hremove).1⟩
  · intro m hm
    obtain ⟨hformula, htext, hcursor⟩ := Editor.bare_eq_iff.mp (bare_move_of_input?_eq_none c hm)
    exact ⟨hformula, htext, hcursor, focusCount_of_input?_eq_none c hm⟩
  · exact fun live event h => move_of_isArrow c h live
  · exact fun live event h => move_of_ignores hvalid h live
  · exact fun m => ⟨focusCount_move_of_refocuses, focusCount_move_of_not_refocuses⟩

end Formulary.Controller
