import Formulary.Proofs.CommandLine.Typing
import Formulary.Proofs.Controller.Effect

/-!
# Editing a token

To edit a token takes it out and its text up again, and `Enter` puts what the text reads as at the
cursor. That may be another token, since an identifier is lost and a name can read as an operator, but
it shows the same text. So a token that is edited and entered again has moved to the cursor and nothing
else has changed, and if the cursor was in its place the formula shows and evaluates as before.
-/

namespace Formulary

namespace Formula

variable {s s' : List Token}

theorem toSource_congr (h : s.map Token.display = s'.map Token.display) :
    toSource s = toSource s' := by
  rw [toSource, toSource, h]

/-- What a formula evaluates to depends on what it shows. -/
theorem evaluate_congr (h : s.map Token.display = s'.map Token.display) (scope : Scope) :
    evaluate scope s = evaluate scope s' := by
  have hempty : s.isEmpty = s'.isEmpty := by
    rw [← List.isEmpty_map (f := Token.display), h, List.isEmpty_map]
  simp only [evaluate, compute, render, hempty, toSource_congr h, h]

end Formula

namespace Controller

variable {c : Controller} {i : Nat} {t : Token}

/-- An edited token is taken out, its text is typed and the cursor stays in the formula. -/
theorem move_edit (ht : c.editor.formula[i]? = some t) (live : Bool) :
    let e := (c.move (.input live (.action i TokenAction.edit.name))).editor
    e.formula = c.editor.formula.eraseIdx i ∧ e.text = t.display ∧
      e.cursor = c.editor.cursor.filter (· ≤ (c.editor.formula.eraseIdx i).length) := by
  intro e
  have hat : Editor.at? c.editor.formula (i : Int) = some t := by
    rw [Editor.at?, if_pos (Int.natCast_nonneg i), Int.toNat_natCast, ht]
  have he : e = (c.editor.setFormula (c.editor.formula.eraseIdx i)).retype c.provider.peek
      t.display := by
    rw [← Formula.removeAt_natCast]
    change (c.move _).editor = _
    rw [move, handle_editor, Editor.react_action, Editor.act_edit _ hat]
  rw [he]
  exact ⟨by simp, by simp, by simp⟩

/-- Entered again, the text of an edited token is put at the cursor. -/
theorem texts_edit_enter (hhigh : c.editor.highlighted = none)
    (ht : c.editor.formula[i]? = some t) (hblank : Text.trim t.display ≠ "")
    (htrim : Text.trim t.display = t.display) (live live' : Bool) {between : List Move}
    (hbetween : ∀ m ∈ between, m.input? = none) :
    (((c.move (.input live (.action i TokenAction.edit.name))).run between).move
        (.input live' (.key Key.enter.name))).editor.formula.map Token.display =
      Formula.insert ((c.editor.formula.map Token.display).eraseIdx i) t.display
        (c.editor.cursor.map Int.ofNat) := by
  obtain ⟨hformula, htext, hcursor⟩ := move_edit ht live
  have hedit : ¬ Move.IsArrow (.input live (.action i TokenAction.edit.name)) := fun h => h
  have hhigh' := (settles_move c hedit).highlighted_eq_none hhigh
  generalize c.move (.input live (.action i TokenAction.edit.name)) = d at *
  have hquiet : ∀ m ∈ between, ¬ m.IsArrow := by
    intro m hm harrow
    have hnone := hbetween m hm
    cases m with
    | input => cases hnone
    | apply | schedule | start | resume | provider => exact harrow
  have hhigh'' := (settles_run d hquiet).highlighted_eq_none hhigh'
  obtain ⟨hformula', htext', hcursor'⟩ :=
    Editor.bare_eq_iff.mp (bare_run_of_input?_eq_none d hbetween)
  have hentered : ((d.run between).editor.entered).display = t.display := by
    rw [Editor.entered_of_unhighlighted hhigh'', htext', htext, htrim, Token.display_ofText]
  have henter := formula_enter (d.run between) live' (by rwa [htext', htext])
  rw [henter, hformula', hformula, hcursor', hcursor, Formula.insert_filter, Formula.map_insert,
    hentered, List.eraseIdx_map]

/-- A token whose text has no blanks around it is edited and entered again, while the user does nothing
else. The texts of the formula are then those from before, but for this one: it stands at the cursor if
that was before the end, and at the end otherwise. If it stood there already, texts, source and result
are those from before. -/
theorem edit_enter_moves_token (provider : Provider) (moves : List Move) (scope : Scope)
    (hhigh : (run { provider } moves).editor.highlightedSuggestion = none)
    (ht : (run { provider } moves).editor.formula[i]? = some t)
    (hblank : Text.trim t.display ≠ "") (htrim : Text.trim t.display = t.display)
    (live live' : Bool) {between : List Move} (hbetween : ∀ m ∈ between, m.input? = none) :
    let e := (run { provider } moves).editor
    let e' := ((((run { provider } moves).move
      (.input live (.action i TokenAction.edit.name))).run between).move
        (.input live' (.key Key.enter.name))).editor
    let texts := e.formula.map Token.display
    let texts' := e'.formula.map Token.display
    (∀ p ∈ e.cursor, p < texts.length → texts' = (texts.eraseIdx i).insertIdx p t.display) ∧
      ((∀ p ∈ e.cursor, texts.length ≤ p) → texts' = texts.eraseIdx i ++ [t.display]) ∧
      (e.cursor = some i ∨
          i + 1 = texts.length ∧ (e.cursor = none ∨ e.cursor = some texts.length) →
        texts' = texts ∧ Formula.toSource e'.formula = Formula.toSource e.formula ∧
          Formula.evaluate scope e'.formula = Formula.evaluate scope e.formula) := by
  intro e e' texts texts'
  have hvalid : e.Valid := valid_run Editor.valid_new moves
  have htexts : texts' = Formula.insert (texts.eraseIdx i) t.display (e.cursor.map Int.ofNat) :=
    texts_edit_enter (hvalid.highlightedSuggestion_eq_none_iff.mp hhigh) ht hblank htrim live live'
      hbetween
  have hat : texts[i]? = some t.display := by simp [texts, e, ht]
  obtain ⟨hi, hget⟩ := List.getElem?_eq_some_iff.mp hat
  have hlength : (texts.eraseIdx i).length + 1 = texts.length := List.length_eraseIdx_add_one hi
  have hbefore : ∀ p ∈ e.cursor, p < texts.length →
      texts' = (texts.eraseIdx i).insertIdx p t.display := by
    intro p hp hlt
    have hle : p ≤ (texts.eraseIdx i).length := by omega
    rw [htexts, hp]
    exact Formula.insert_of_le hle t.display
  have hend : (∀ p ∈ e.cursor, texts.length ≤ p) → texts' = texts.eraseIdx i ++ [t.display] := by
    intro hp
    rw [htexts]
    cases hcursor : e.cursor with
    | none => rfl
    | some p =>
      have hle := hp p hcursor
      have hlt : (texts.eraseIdx i).length < p := by omega
      exact Formula.insert_of_lt hlt t.display
  refine ⟨hbefore, hend, ?_⟩
  -- In both cases the text goes back to the index it was taken from.
  have hback : (texts.eraseIdx i).insertIdx i t.display = texts := by
    rw [← hget]
    exact List.insertIdx_eraseIdx_getElem hi
  intro hplace
  have hsame : texts' = texts := by
    rcases hplace with hcursor | ⟨hlast, hcursor⟩
    · exact (hbefore i hcursor hi).trans hback
    · have happend := hend (by rcases hcursor with h | h <;> simp [h])
      have hlast' : (texts.eraseIdx i).length = i := by omega
      rw [happend, ← List.insertIdx_length_self, hlast', hback]
  exact ⟨hsame, Formula.toSource_congr hsame, Formula.evaluate_congr hsame scope⟩

/-- A suggestion and an operator are entered, and the cursor is put in front of both. -/
def offeredMoves : List Move :=
  highlightingMoves ++ [.input true (.key Key.enter.name), .input true (.text "+"),
    .input true (.key Key.enter.name), .input true (.click (-1))]

/-- The suggestion is edited where it stands, and loses its identifier while others are offered. -/
theorem edit_enter_moves_token_offered :
    let c := run { provider := knowing } offeredMoves
    let d := ((c.move (.input true (.action 0 TokenAction.edit.name))).run
      [.apply "a" [{ name := "acos" }]]).move (.input true (.key Key.enter.name))
    c.editor.formula = [.operand { name := "a", id := some "2" }, .operator .plus] ∧
      d.editor.formula.map Token.display = c.editor.formula.map Token.display ∧
      d.editor.formula ≠ c.editor.formula := by
  intro c d
  have hcursor : (run { provider := knowing } offeredMoves).editor.cursor = some 0 := by
    decide +kernel
  have hbetween : ∀ m ∈ [Move.apply "a" [{ name := "acos" }]], m.input? = none := by
    simp [Move.input?]
  have h := edit_enter_moves_token (i := 0) (t := .operand { name := "a", id := some "2" }) knowing
    offeredMoves .default (by decide +kernel) (by decide +kernel) (by decide +kernel)
    (by decide +kernel) true true hbetween
  have htexts := (h.2.2 (Or.inl hcursor)).1
  refine ⟨by decide +kernel, ?_, by decide +kernel⟩
  rw [Int.natCast_zero] at htexts
  simp only [c, d, htexts]

end Controller

end Formulary
