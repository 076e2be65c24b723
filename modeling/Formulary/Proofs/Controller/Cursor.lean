import Formulary.Proofs.CommandLine.Typing
import Formulary.Proofs.Controller.Effect

/-!
# Where the cursor stays

A click puts the cursor behind a token, as an index into the formula. When another token is removed the
index stays if the formula is still long enough, and is lost otherwise, which is as good as the end. So
the next token lands behind the one that was clicked if that was the last one, or if the removed token
stood behind it; a token removed before it leaves the cursor one place further on.
-/

namespace Formulary

namespace Controller

variable {c d : Controller} {t : Token} {before after : List Token}

/-- Moves that neither put a token in nor take one out nor place the cursor lead from one state to
another. -/
inductive Steady (c : Controller) : Controller → Prop where
  | refl : Steady c c
  | step {d : Controller} {m : Move} (h : Steady c d) (hinsert : ¬ m.IsEvent d.editor.Inserts)
      (hremove : ¬ m.IsEvent d.editor.Removes) (hclick : ∀ i, m.input? ≠ some (.click i)) :
      Steady c (d.move m)

theorem Steady.valid (h : Steady c d) (hvalid : c.editor.Valid) : d.editor.Valid := by
  induction h with
  | refl => exact hvalid
  | step _ _ _ _ ih => exact valid_move ih _

/-- Formula and cursor stay, provided there is a formula. -/
theorem Steady.frame (h : Steady c d) (hvalid : c.editor.Valid) (hne : c.editor.formula ≠ []) :
    d.editor.formula = c.editor.formula ∧ d.editor.cursor = c.editor.cursor := by
  induction h with
  | refl => exact ⟨rfl, rfl⟩
  | step h hinsert hremove hclick ih =>
    obtain ⟨hformula, hcursor⟩ := ih
    have hframe := move_frame (h.valid hvalid) hinsert hremove
    exact ⟨hframe.1.trans hformula, (hframe.2 (hformula ▸ hne) hclick).trans hcursor⟩

theorem move_click (c : Controller) (live : Bool) (i : Int) :
    (c.move (.input live (.click i))).editor = c.editor.click i := by
  rw [move, handle_editor]
  rfl

theorem move_action (c : Controller) (live : Bool) (i : Int) (a : TokenAction) :
    (c.move (.input live (.action i a.name))).editor =
      (c.editor.act c.provider.peek i a).editor := by
  rw [move, handle_editor, Editor.react_action]

/-- Behind a click and the removal of another token, `Enter` inserts at the index behind the token that
was clicked. -/
theorem formula_enter_of_clicked (hvalid : c.editor.Valid)
    (hformula : c.editor.formula = before ++ t :: after) (live live' live'' : Bool) {j : Nat}
    {a : TokenAction} (hj : j < c.editor.formula.length) (hother : j ≠ before.length)
    {clicked ready : Controller}
    (hclicked : Steady (c.move (.input live (.click before.length))) clicked)
    (hready : Steady (clicked.move (.input live' (.action j a.name))) ready)
    (htext : Text.trim ready.editor.text ≠ "") :
    (ready.move (.input live'' (.key Key.enter.name))).editor.formula =
      Formula.insert ((before ++ t :: after).eraseIdx j) ready.editor.entered
        (some (before.length + 1 : Nat)) := by
  have hvalid' := valid_move hvalid (.input live (.click before.length))
  have hclick := move_click c live before.length
  have hplace : (c.editor.click before.length).cursor = some (before.length + 1) := by
    rw [Editor.click, hformula]
    simp
  obtain ⟨hformula₁, hcursor₁⟩ := hclicked.frame hvalid' (by rw [hclick]; simp [Editor.click, hformula])
  rw [hclick] at hformula₁ hcursor₁
  rw [hplace] at hcursor₁
  have hformula₁' : clicked.editor.formula = before ++ t :: after := hformula₁.trans hformula
  have hin : InRange clicked.editor.formula j := by
    rw [hformula₁', ← hformula]
    exact ⟨Int.natCast_nonneg j, Int.ofNat_lt.mpr hj⟩
  -- At least the token that was clicked is left, so that the cursor stays as long as it is in range.
  have hremoved : (clicked.move (.input live' (.action j a.name))).editor.formula =
      (before ++ t :: after).eraseIdx j := by
    rw [move_action, Editor.act_formula, hformula₁', Formula.removeAt_natCast]
  have hcursor₂ : (clicked.move (.input live' (.action j a.name))).editor.cursor =
      (some (before.length + 1)).filter (· ≤ ((before ++ t :: after).eraseIdx j).length) := by
    rw [move_action, Editor.act_cursor _ hin, hcursor₁, hformula₁', Formula.removeAt_natCast]
  have hne : (before ++ t :: after).eraseIdx j ≠ [] := by
    rw [← List.length_pos_iff, List.length_eraseIdx]
    rw [hformula] at hj
    simp only [List.length_append, List.length_cons] at hj ⊢
    split <;> omega
  obtain ⟨hformula₃, hcursor₃⟩ :=
    hready.frame (valid_move (hclicked.valid hvalid') _) (hremoved ▸ hne)
  rw [formula_enter ready live'' htext, hformula₃, hcursor₃, hremoved, hcursor₂,
    Formula.insert_filter]
  rfl

/-- A token is clicked and another one removed. The next token that is entered lands immediately behind
the one that was clicked if this was the last one, or if the removed token stood behind it. Otherwise it
lands behind the token that follows. -/
theorem cursor_keeps_index (provider : Provider) (moves : List Move)
    (hformula : (run { provider } moves).editor.formula = before ++ t :: after)
    (live live' live'' : Bool) {j : Nat} {a : TokenAction}
    (hj : j < (run { provider } moves).editor.formula.length) (hother : j ≠ before.length)
    {clicked ready : Controller}
    (hclicked : Steady ((run { provider } moves).move (.input live (.click before.length))) clicked)
    (hready : Steady (clicked.move (.input live' (.action j a.name))) ready)
    (htext : Text.trim ready.editor.text ≠ "") :
    let formula := (ready.move (.input live'' (.key Key.enter.name))).editor.formula
    let entered := ready.editor.entered
    (before.length < j →
        formula = before ++ t :: entered :: after.eraseIdx (j - (before.length + 1))) ∧
      (j < before.length → after = [] → formula = before.eraseIdx j ++ [t, entered]) ∧
      ∀ next rest, j < before.length → after = next :: rest →
        formula = before.eraseIdx j ++ t :: next :: entered :: rest := by
  intro formula entered
  have hvalid : (run { provider } moves).editor.Valid := valid_run Editor.valid_new moves
  have henter : formula = Formula.insert ((before ++ t :: after).eraseIdx j) entered
      (some (before.length + 1 : Nat)) :=
    formula_enter_of_clicked hvalid hformula live live' live'' hj hother hclicked hready htext
  rw [henter]
  refine ⟨fun hlt => Formula.insert_eraseIdx_of_lt hlt t entered, ?_, ?_⟩
  · rintro hgt rfl
    exact Formula.insert_eraseIdx_of_gt_last hgt t entered
  · rintro next rest hgt rfl
    exact Formula.insert_eraseIdx_of_gt hgt t next entered

/-- Three tokens are typed. -/
def abcMoves : List Move := (typing ["a", "b", "c"]).map (.input true)

/-- The first token is clicked and the last one edited. Candidates for its text come, and it is entered
behind the first one. -/
theorem cursor_keeps_index_editing :
    let edited := ((run {} abcMoves).move (.input true (.click 0))).move
      (.input true (.action 2 TokenAction.edit.name))
    (run {} abcMoves).editor.formula = ["a", "b", "c"].map Token.ofText ∧
      ((edited.move (.apply "c" [{ name := "cos" }])).move
        (.input true (.key Key.enter.name))).editor.formula = ["a", "c", "b"].map Token.ofText := by
  intro edited
  have hformula : (run {} abcMoves).editor.formula =
      [] ++ Token.ofText "a" :: ["b", "c"].map Token.ofText := by decide +kernel
  have hready : Steady edited (edited.move (.apply "c" [{ name := "cos" }])) :=
    .step .refl (by simp [Move.IsEvent, Move.input?]) (by simp [Move.IsEvent, Move.input?])
      (by simp [Move.input?])
  have htext : Text.trim (edited.move (.apply "c" [{ name := "cos" }])).editor.text ≠ "" := by
    decide +kernel
  have hentered : (edited.move (.apply "c" [{ name := "cos" }])).editor.entered = Token.ofText "c" := by
    decide +kernel
  have h := cursor_keeps_index {} abcMoves hformula true true true (j := 2) (a := .edit)
    (by decide +kernel) (by decide) .refl hready htext
  refine ⟨hformula, (h.1 (by decide)).trans ?_⟩
  rw [hentered]
  rfl

/-- A token that is removed before the one that was clicked makes the next token land too far right. -/
theorem cursor_leaves_token :
    ¬ ∀ (provider : Provider) (moves : List Move) (before after : List Token) (t : Token) (j : Nat)
      (a : TokenAction) (clicked ready : Controller),
      (run { provider } moves).editor.formula = before ++ t :: after →
      j < (before ++ t :: after).length → j ≠ before.length →
      Steady ((run { provider } moves).move (.input true (.click before.length))) clicked →
      Steady (clicked.move (.input true (.action j a.name))) ready →
      Text.trim ready.editor.text ≠ "" →
        (ready.move (.input true (.key Key.enter.name))).editor.formula =
          before.eraseIdx j ++ t :: ready.editor.entered ::
            if before.length < j then after.eraseIdx (j - (before.length + 1)) else after := by
  intro h
  let removed := ((run {} abcMoves).move (.input true (.click 1))).move
    (.input true (.action 0 TokenAction.delete.name))
  have hready : Steady removed (removed.move (.input true (.text "d"))) := by
    refine .step .refl ?_ ?_ (by simp [Move.input?])
    · rintro ⟨event, hevent, hinserts⟩
      cases hevent
      cases hinserts
    · rintro ⟨event, hevent, hremoves⟩
      cases hevent
      cases hremoves
  have hbehind := h {} abcMoves [Token.ofText "a"] [Token.ofText "c"] (Token.ofText "b") 0 .delete
    _ (removed.move (.input true (.text "d"))) (by decide +kernel) (by decide) (by decide) .refl hready
    (by decide +kernel)
  revert hbehind
  decide +kernel

end Controller

end Formulary
