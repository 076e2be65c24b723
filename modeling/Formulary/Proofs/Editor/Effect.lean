import Formulary.Proofs.Editor
import Formulary.Proofs.Formula.Sequence

/-!
# What an event touches

Few events change the formula: some put one token in, some take one out, and the state of the editor
tells which. Some ask for the focus, and some are ignored. An event that does none of this leaves the
formula alone, and the cursor too unless it is a click.
-/

namespace Formulary

theorem Key.ofName?_name (k : Key) : Key.ofName? k.name = some k := by
  cases k <;> decide

theorem Key.name_of_ofName? {name : String} {k : Key} (h : Key.ofName? name = some k) :
    name = k.name := by
  have hk : k.name = name := by simpa using List.find?_some h
  exact hk.symm

theorem TokenAction.ofName?_name (a : TokenAction) : TokenAction.ofName? a.name = some a := by
  cases a <;> decide

theorem TokenAction.name_of_ofName? {name : String} {a : TokenAction}
    (h : TokenAction.ofName? name = some a) : name = a.name := by
  have ha : a.name = name := by simpa using List.find?_some h
  exact ha.symm

namespace Editor

variable {e : Editor} {event : InputEvent}

/-- Events that put a token into the formula. -/
inductive Inserts (e : Editor) : InputEvent → Prop where
  | enter (h : Text.trim e.text ≠ "") : Inserts e (.key Key.enter.name)
  | select {i : Int} (h : InRange e.suggestions i) : Inserts e (.select i)

/-- Events that take a token out of the formula. -/
inductive Removes (e : Editor) : InputEvent → Prop where
  | backspace (htext : e.text = "") (hformula : e.formula ≠ []) :
      Removes e (.key Key.backspace.name)
  | action {i : Int} (a : TokenAction) (h : InRange e.formula i) : Removes e (.action i a.name)

/-- Events that ask for the focus. -/
inductive Refocuses (e : Editor) : InputEvent → Prop where
  | backspace (h : e.text = "") : Refocuses e (.key Key.backspace.name)
  | edit {i : Int} (h : InRange e.formula i) : Refocuses e (.action i TokenAction.edit.name)
  | select {i : Int} (h : InRange e.suggestions i) : Refocuses e (.select i)

/-- Events that nothing comes of. -/
inductive Ignores (e : Editor) : InputEvent → Prop where
  | enter (h : Text.trim e.text = "") : Ignores e (.key Key.enter.name)
  | backspace (h : e.text ≠ "") : Ignores e (.key Key.backspace.name)
  | unknownKey {name : String} (h : ∀ k : Key, name ≠ k.name) : Ignores e (.key name)
  | unknownAction {i : Int} {name : String} (h : ∀ a : TokenAction, name ≠ a.name) :
      Ignores e (.action i name)
  | action {i : Int} {name : String} (h : ¬ InRange e.formula i) : Ignores e (.action i name)
  | select {i : Int} (h : ¬ InRange e.suggestions i) : Ignores e (.select i)

/-! ## Indices -/

theorem inRange_of_at? {α : Type} {xs : List α} {i : Int} {x : α} (h : at? xs i = some x) :
    InRange xs i := by
  unfold at? at h
  split at h
  · have hlt : i.toNat < xs.length := (List.getElem?_eq_some_iff.mp h).1
    unfold InRange
    omega
  · cases h

theorem exists_at? {α : Type} {xs : List α} {i : Int} (h : InRange xs i) :
    ∃ x, at? xs i = some x := by
  obtain ⟨hnonneg, hlt⟩ := h
  have hlt' : i.toNat < xs.length := by omega
  exact ⟨xs[i.toNat], by rw [at?, if_pos hnonneg, List.getElem?_eq_getElem hlt']⟩

theorem at?_eq_none {α : Type} {xs : List α} {i : Int} (h : ¬ InRange xs i) : at? xs i = none := by
  cases hx : at? xs i with
  | none => rfl
  | some x => exact absurd (inRange_of_at? hx) h

/-! ## Reactions -/

theorem react_key (peek : Peek) (e : Editor) (k : Key) :
    e.react peek (.key k.name) = e.press peek k := by
  simp only [react, Key.ofName?_name]

theorem react_action (peek : Peek) (e : Editor) (i : Int) (a : TokenAction) :
    e.react peek (.action i a.name) = e.act peek i a := by
  simp only [react, TokenAction.ofName?_name]

theorem act_edit (peek : Peek) {i : Int} {t : Token} (h : at? e.formula i = some t) :
    e.act peek i .edit =
      { editor := (e.setFormula (Formula.removeAt e.formula i)).retype peek t.display
        retyped := true
        focus := true } := by
  simp only [act, h]

theorem act_formula (peek : Peek) (e : Editor) (i : Int) (a : TokenAction) :
    (e.act peek i a).editor.formula = Formula.removeAt e.formula i := by
  cases a with
  | delete => exact setFormula_formula e _
  | edit =>
    by_cases h : InRange e.formula i
    · obtain ⟨t, ht⟩ := exists_at? h
      rw [act_edit peek ht, retype_formula, setFormula_formula]
    · rw [act, at?_eq_none h, Formula.removeAt_of_not_inRange h]

theorem act_cursor (peek : Peek) {i : Int} (h : InRange e.formula i)
    (a : TokenAction) :
    (e.act peek i a).editor.cursor =
      e.cursor.filter (· ≤ (Formula.removeAt e.formula i).length) := by
  cases a with
  | delete => exact setFormula_cursor e _
  | edit =>
    obtain ⟨t, ht⟩ := exists_at? h
    rw [act_edit peek ht, retype_cursor, setFormula_cursor]

/-- A cursor in the formula stays when the formula does, and so do the suggestions that fit it. -/
theorem Valid.setFormula_self (h : e.Valid) : e.setFormula e.formula = e := by
  have hcursor : e.cursor.filter (· ≤ e.formula.length) = e.cursor := by
    cases hi : e.cursor with
    | none => rfl
    | some i => exact Option.filter_some_pos (decide_eq_true (h.cursor i hi))
  rw [Editor.setFormula, hcursor, refilter, if_pos h.suggestions.symm]

theorem Inserts.oneMore (h : e.Inserts event) (peek : Peek) :
    Formula.OneMore e.formula (e.react peek event).editor.formula := by
  cases h with
  | enter h =>
    rw [react_key, press, enter_eq peek h, commit_formula]
    exact Formula.oneMore_insert _ _ _
  | @select i h =>
    obtain ⟨c, hc⟩ := exists_at? h
    rw [react, select_eq peek hc, commit_formula]
    exact Formula.oneMore_insert _ _ _

theorem Removes.oneMore (h : e.Removes event) (peek : Peek) :
    Formula.OneMore (e.react peek event).editor.formula e.formula := by
  cases h with
  | backspace htext hformula =>
    rw [react_key, press, Editor.backspace, if_pos (by simpa using htext)]
    simpa using Formula.oneMore_removeLast hformula
  | action a h =>
    rw [react_action, act_formula]
    exact Formula.oneMore_removeAt h

/-- Any other event leaves the formula alone, and the cursor unless it places it or there is no
formula. -/
theorem react_frame (peek : Peek) (hvalid : e.Valid) (hinsert : ¬ e.Inserts event)
    (hremove : ¬ e.Removes event) :
    (e.react peek event).editor.formula = e.formula ∧
      (e.formula ≠ [] → (∀ i, event ≠ .click i) →
        (e.react peek event).editor.cursor = e.cursor) := by
  have hr := reacted peek e event
  generalize e.react peek event = r at hr ⊢
  cases hr with
  | idle | moved => exact ⟨rfl, fun _ _ => rfl⟩
  | clicked => exact ⟨rfl, fun _ hclick => absurd rfl (hclick _)⟩
  | retyped | escaped =>
    rw [retype_formula, retype_cursor]
    exact ⟨rfl, fun _ _ => rfl⟩
  | entered hname htext =>
    rw [Key.name_of_ofName? hname] at hinsert
    exact absurd (.enter htext) hinsert
  | selected hc => exact absurd (.select (inRange_of_at? hc)) hinsert
  | removedLast hname htext =>
    rw [Key.name_of_ofName? hname] at hremove
    have hnil : e.formula = [] := by
      by_contra hformula
      exact hremove (.backspace htext hformula)
    simp [hnil, Formula.removeLast]
  | @deleted i name hname =>
    rw [TokenAction.name_of_ofName? hname] at hremove
    have hout : ¬ InRange e.formula i := fun h => hremove (.action _ h)
    rw [Formula.removeAt_of_not_inRange hout, hvalid.setFormula_self]
    exact ⟨rfl, fun _ _ => rfl⟩
  | edited hname ht =>
    rw [TokenAction.name_of_ofName? hname] at hremove
    exact absurd (.action _ (inRange_of_at? ht)) hremove

theorem Ignores.react_eq (h : e.Ignores event) (hvalid : e.Valid) (peek : Peek) :
    e.react peek event = { editor := e } := by
  cases h with
  | enter h => rw [react_key, press, Editor.enter, if_pos (by simpa using h)]
  | backspace h => rw [react_key, press, Editor.backspace, if_neg (by simpa using h)]
  | @unknownKey name h =>
    have hnone : Key.ofName? name = none := by
      cases hk : Key.ofName? name with
      | none => rfl
      | some k => exact absurd (Key.name_of_ofName? hk) (h k)
    simp only [react, hnone]
  | @unknownAction i name h =>
    have hnone : TokenAction.ofName? name = none := by
      cases ha : TokenAction.ofName? name with
      | none => rfl
      | some a => exact absurd (TokenAction.name_of_ofName? ha) (h a)
    simp only [react, hnone]
  | @action i name h =>
    cases ha : TokenAction.ofName? name with
    | none => simp only [react, ha]
    | some a =>
      simp only [react, ha]
      cases a with
      | delete => rw [act, Formula.removeAt_of_not_inRange h, hvalid.setFormula_self]
      | edit => rw [act, at?_eq_none h]
  | @select i h => rw [react, Editor.select, at?_eq_none h]

/-- An arrow key moves the highlight, if it does anything. -/
theorem react_arrow (peek : Peek) (e : Editor) {name : String} {k : Key}
    (hname : Key.ofName? name = some k) (hk : k = .arrowUp ∨ k = .arrowDown) :
    ∃ highlighted, (e.react peek (.key name)).editor = { e with highlighted } ∧
      (e.react peek (.key name)).retyped = false ∧ (e.react peek (.key name)).focus = false := by
  have hmove (move : Nat → Option Nat → Nat) : ∃ highlighted,
      (e.moveHighlight move).editor = { e with highlighted } ∧
        (e.moveHighlight move).retyped = false ∧ (e.moveHighlight move).focus = false := by
    unfold moveHighlight
    split
    · exact ⟨e.highlighted, rfl, rfl, rfl⟩
    · exact ⟨_, rfl, rfl, rfl⟩
  rw [Key.name_of_ofName? hname, react_key]
  rcases hk with rfl | rfl
  · exact hmove previous
  · exact hmove next

theorem react_focus_iff (peek : Peek) (e : Editor) (event : InputEvent) :
    (e.react peek event).focus = true ↔ e.Refocuses event := by
  constructor
  · intro hfocus
    have hr := reacted peek e event
    generalize e.react peek event = r at hr hfocus
    cases hr with
    | idle | retyped | entered | escaped | moved | clicked | deleted => cases hfocus
    | removedLast hname htext =>
      rw [Key.name_of_ofName? hname]
      exact .backspace htext
    | selected hc => exact .select (inRange_of_at? hc)
    | edited hname ht =>
      rw [TokenAction.name_of_ofName? hname]
      exact .edit (inRange_of_at? ht)
  · intro h
    cases h with
    | backspace h => rw [react_key, press, Editor.backspace, if_pos (by simpa using h)]
    | edit h =>
      obtain ⟨t, ht⟩ := exists_at? h
      rw [react_action, act_edit peek ht]
    | select h =>
      obtain ⟨c, hc⟩ := exists_at? h
      rw [react, select_eq peek hc]

end Editor

end Formulary
