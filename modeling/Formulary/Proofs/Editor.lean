import Formulary.Editor

/-!
# The shape of an editor

In every editor that events lead to, the cursor lies in the formula, the highlight in the list of
suggestions, and the suggestions are the candidates that fit the formula. An event either leaves the
candidates with their key or replaces them by what is known of the new one.
-/

namespace Formulary

theorem Suggestion.mem_fitting_of_endsInOperator {candidates : List Operand} {formula : List Token}
    (h : Formula.endsInOperator formula = true) {x : Operand} (hx : x ∈ fitting candidates formula) :
    isOperatorSymbol x.name = false := by
  rw [fitting, if_pos h] at hx
  simpa using (List.mem_filter.mp hx).2

theorem Suggestion.fitting_subset (candidates : List Operand) (formula : List Token) :
    fitting candidates formula ⊆ candidates := by
  unfold fitting
  split
  · exact List.filter_sublist.subset
  · exact List.Subset.refl _

namespace Editor

variable {e : Editor} {peek : Peek}

structure Valid (e : Editor) : Prop where
  cursor : ∀ i ∈ e.cursor, i ≤ e.formula.length
  highlighted : ∀ i ∈ e.highlighted, i < e.suggestions.length
  suggestions : e.suggestions = Suggestion.fitting e.candidates e.formula

theorem valid_new : Valid {} := ⟨by simp, by simp, rfl⟩

theorem Valid.highlightedSuggestion_eq_none_iff (h : e.Valid) :
    e.highlightedSuggestion = none ↔ e.highlighted = none := by
  cases hi : e.highlighted with
  | none => simp [highlightedSuggestion, hi]
  | some i =>
    have hlt := h.highlighted i hi
    simp [highlightedSuggestion, hi, hlt]

/-! ## What the parts of an event change -/

/-- The highlight stays only if the suggestions do. -/
theorem refilter_eq (e : Editor) :
    e.refilter = { e with
      suggestions := Suggestion.fitting e.candidates e.formula
      highlighted := if Suggestion.fitting e.candidates e.formula = e.suggestions then e.highlighted
        else none } := by
  by_cases h : Suggestion.fitting e.candidates e.formula = e.suggestions
  · simp [refilter, h]
  · simp [refilter, h]

theorem retype_eq (peek : Peek) (e : Editor) (text : String) :
    retype peek e text =
      if queryKey text = e.key then { e with text }
      else { e with
        text
        candidates := peek (queryKey text)
        suggestions := Suggestion.fitting (peek (queryKey text)) e.formula
        highlighted := none } := rfl

theorem commit_eq (peek : Peek) (e : Editor) (t : Token) :
    e.commit peek t = retype peek
      { e.setFormula (Formula.insert e.formula t (e.cursor.map Int.ofNat)) with
        cursor := none
        highlighted := none } "" := rfl

@[simp] theorem refilter_text (e : Editor) : e.refilter.text = e.text := by rw [refilter_eq]

@[simp] theorem refilter_candidates (e : Editor) : e.refilter.candidates = e.candidates := by
  rw [refilter_eq]

@[simp] theorem setFormula_text (e : Editor) (formula : List Token) :
    (e.setFormula formula).text = e.text := by
  simp [setFormula]

@[simp] theorem setFormula_candidates (e : Editor) (formula : List Token) :
    (e.setFormula formula).candidates = e.candidates := by
  simp [setFormula]

@[simp] theorem retype_text (peek : Peek) (e : Editor) (text : String) :
    (retype peek e text).text = text := by
  rw [retype_eq]
  split <;> rfl

theorem retype_candidates (peek : Peek) (e : Editor) (text : String) :
    (retype peek e text).candidates =
      if queryKey text = e.key then e.candidates else peek (queryKey text) := by
  rw [retype_eq]
  split <;> rfl

@[simp] theorem install_text (e : Editor) (candidates : List Operand) :
    (e.install candidates).text = e.text := by
  simp [install]

@[simp] theorem install_candidates (e : Editor) (candidates : List Operand) :
    (e.install candidates).candidates = candidates := by
  simp [install]

theorem commit_text (peek : Peek) (e : Editor) (t : Token) : (e.commit peek t).text = "" := by
  rw [commit_eq, retype_text]

@[simp] theorem refilter_formula (e : Editor) : e.refilter.formula = e.formula := by
  rw [refilter_eq]

@[simp] theorem refilter_cursor (e : Editor) : e.refilter.cursor = e.cursor := by
  rw [refilter_eq]

@[simp] theorem setFormula_formula (e : Editor) (formula : List Token) :
    (e.setFormula formula).formula = formula := by
  rw [setFormula, refilter_formula]

@[simp] theorem setFormula_cursor (e : Editor) (formula : List Token) :
    (e.setFormula formula).cursor = e.cursor.filter (· ≤ formula.length) := by
  rw [setFormula, refilter_cursor]

@[simp] theorem retype_formula (peek : Peek) (e : Editor) (text : String) :
    (retype peek e text).formula = e.formula := by
  rw [retype_eq]
  split <;> rfl

@[simp] theorem retype_cursor (peek : Peek) (e : Editor) (text : String) :
    (retype peek e text).cursor = e.cursor := by
  rw [retype_eq]
  split <;> rfl

theorem commit_formula (peek : Peek) (e : Editor) (t : Token) :
    (e.commit peek t).formula = Formula.insert e.formula t (e.cursor.map Int.ofNat) := by
  rw [commit_eq, retype_formula, setFormula_formula]

theorem commit_cursor (peek : Peek) (e : Editor) (t : Token) : (e.commit peek t).cursor = none := by
  rw [commit_eq, retype_cursor]

@[simp] theorem queryKey_key (e : Editor) : queryKey e.key = e.key := Text.trim_trim e.text

/-! ## What an event can do -/

/-- The token that `Enter` commits. -/
def entered (e : Editor) : Token :=
  match e.highlightedSuggestion with
  | some c => .operand c
  | none => Token.ofText (Text.trim e.text)

/-- The cases of an event, with what it leads to. -/
inductive Reacted (peek : Peek) (e : Editor) : InputEvent → Reaction → Prop where
  | idle {event : InputEvent} : Reacted peek e event { editor := e }
  | retyped {text : String} :
      Reacted peek e (.text text) { editor := e.retype peek text, retyped := true }
  | entered {name : String} (hname : Key.ofName? name = some .enter)
      (htext : Text.trim e.text ≠ "") :
      Reacted peek e (.key name) { editor := e.commit peek e.entered, retyped := true }
  | escaped {name : String} (hname : Key.ofName? name = some .escape) :
      Reacted peek e (.key name)
        { editor := retype peek { e with highlighted := none } "", retyped := true }
  | removedLast {name : String} (hname : Key.ofName? name = some .backspace) (htext : e.text = "") :
      Reacted peek e (.key name)
        { editor := { e.setFormula (Formula.removeLast e.formula) with cursor := none }
          focus := true }
  | moved {name : String} {k : Key} {i : Nat} (hname : Key.ofName? name = some k)
      (hk : k = .arrowDown ∧ i = next e.suggestions.length e.highlighted ∨
        k = .arrowUp ∧ i = previous e.suggestions.length e.highlighted)
      (hsome : e.suggestions ≠ []) :
      Reacted peek e (.key name) { editor := { e with highlighted := some i }, consumed := true }
  | clicked {i : Int} : Reacted peek e (.click i) { editor := e.click i }
  | selected {i : Int} {c : Operand} (hc : at? e.suggestions i = some c) :
      Reacted peek e (.select i)
        { editor := e.commit peek (.operand c), retyped := true, focus := true }
  | deleted {i : Int} {name : String} (hname : TokenAction.ofName? name = some .delete) :
      Reacted peek e (.action i name)
        { editor := e.setFormula (Formula.removeAt e.formula i) }
  | edited {i : Int} {name : String} {t : Token} (hname : TokenAction.ofName? name = some .edit)
      (ht : at? e.formula i = some t) :
      Reacted peek e (.action i name)
        { editor := (e.setFormula (Formula.removeAt e.formula i)).retype peek t.display
          retyped := true
          focus := true }

theorem enter_eq (peek : Peek) (h : Text.trim e.text ≠ "") :
    e.enter peek = { editor := e.commit peek e.entered, retyped := true } := by
  simp only [enter, String.isEmpty_iff, h, if_false]
  rfl

theorem select_eq (peek : Peek) {i : Int} {c : Operand} (h : at? e.suggestions i = some c) :
    e.select peek i = { editor := e.commit peek (.operand c), retyped := true, focus := true } := by
  simp [select, h]

theorem reacted_enter (peek : Peek) (e : Editor) {name : String}
    (hname : Key.ofName? name = some .enter) : Reacted peek e (.key name) (e.enter peek) := by
  by_cases htext : Text.trim e.text = ""
  · have h : e.enter peek = { editor := e } := by simp [enter, htext]
    exact h ▸ .idle
  · rw [enter_eq peek htext]
    exact .entered hname htext

theorem reacted_backspace (peek : Peek) (e : Editor) {name : String}
    (hname : Key.ofName? name = some .backspace) : Reacted peek e (.key name) e.backspace := by
  by_cases htext : e.text = ""
  · have h : Reacted peek e (.key name) _ := .removedLast hname htext
    simpa [backspace, htext] using h
  · have h : e.backspace = { editor := e } := by simp [backspace, htext]
    exact h ▸ .idle

theorem reacted_moveHighlight (peek : Peek) (e : Editor) {name : String} {k : Key}
    (hname : Key.ofName? name = some k) {move : Nat → Option Nat → Nat}
    (hmove : k = .arrowDown ∧ move = next ∨ k = .arrowUp ∧ move = previous) :
    Reacted peek e (.key name) (e.moveHighlight move) := by
  by_cases hsome : e.suggestions = []
  · have h : e.moveHighlight move = { editor := e } := by simp [moveHighlight, hsome]
    exact h ▸ .idle
  · have h : e.moveHighlight move =
        { editor := { e with highlighted := some (move e.suggestions.length e.highlighted) }
          consumed := true } := by
      simp [moveHighlight, hsome]
    rw [h]
    refine .moved hname ?_ hsome
    rcases hmove with ⟨rfl, rfl⟩ | ⟨rfl, rfl⟩
    · exact Or.inl ⟨rfl, rfl⟩
    · exact Or.inr ⟨rfl, rfl⟩

theorem reacted_select (peek : Peek) (e : Editor) (i : Int) :
    Reacted peek e (.select i) (e.select peek i) := by
  cases hc : at? e.suggestions i with
  | none =>
    have h : e.select peek i = { editor := e } := by simp [select, hc]
    exact h ▸ .idle
  | some c =>
    rw [select_eq peek hc]
    exact .selected hc

theorem reacted_edit (peek : Peek) (e : Editor) (i : Int) {name : String}
    (hname : TokenAction.ofName? name = some .edit) :
    Reacted peek e (.action i name) (e.act peek i .edit) := by
  cases ht : at? e.formula i with
  | none =>
    have h : e.act peek i .edit = { editor := e } := by simp [act, ht]
    exact h ▸ .idle
  | some t =>
    have h : Reacted peek e (.action i name) _ := .edited hname ht
    simpa [act, ht] using h

theorem reacted (peek : Peek) (e : Editor) (event : InputEvent) :
    Reacted peek e event (e.react peek event) := by
  cases event with
  | text s => exact .retyped
  | click i => exact .clicked
  | select i => exact reacted_select peek e i
  | key name =>
    cases hname : Key.ofName? name with
    | none =>
      have h : e.react peek (.key name) = { editor := e } := by simp [react, hname]
      exact h ▸ .idle
    | some k =>
      have h : e.react peek (.key name) = e.press peek k := by simp [react, hname]
      rw [h]
      cases k with
      | enter => exact reacted_enter peek e hname
      | backspace => exact reacted_backspace peek e hname
      | arrowDown => exact reacted_moveHighlight peek e hname (Or.inl ⟨rfl, rfl⟩)
      | arrowUp => exact reacted_moveHighlight peek e hname (Or.inr ⟨rfl, rfl⟩)
      | escape => exact .escaped hname
  | action i name =>
    cases hname : TokenAction.ofName? name with
    | none =>
      have h : e.react peek (.action i name) = { editor := e } := by simp [react, hname]
      exact h ▸ .idle
    | some a =>
      have h : e.react peek (.action i name) = e.act peek i a := by simp [react, hname]
      rw [h]
      cases a with
      | delete => exact .deleted hname
      | edit => exact reacted_edit peek e i hname

/-! ## Where the candidates come from -/

/-- The candidates stay with their key, or they are what is known of the new one. -/
def Follows (peek : Peek) (e e' : Editor) : Prop :=
  (e'.key = e.key ∧ e'.candidates = e.candidates) ∨ e'.candidates = peek e'.key

theorem follows_retype (peek : Peek) {e₁ : Editor} (hkey : e₁.key = e.key)
    (hcandidates : e₁.candidates = e.candidates) (text : String) :
    Follows peek e (e₁.retype peek text) := by
  rw [Follows, key, retype_text, retype_candidates, hkey, hcandidates]
  by_cases h : queryKey text = e.key
  · exact Or.inl ⟨h, if_pos h⟩
  · exact Or.inr (if_neg h)

theorem follows_setFormula (peek : Peek) (e : Editor) (formula : List Token) :
    Follows peek e (e.setFormula formula) :=
  Or.inl ⟨by rw [key, setFormula_text, key], setFormula_candidates e formula⟩

theorem follows_commit (peek : Peek) (e : Editor) (t : Token) :
    Follows peek e (e.commit peek t) := by
  rw [commit_eq]
  refine follows_retype peek ?_ ?_ ""
  · rw [key, setFormula_text, key]
  · rw [setFormula_candidates]

theorem follows_react (peek : Peek) (e : Editor) (event : InputEvent) :
    Follows peek e (e.react peek event).editor := by
  have hr := reacted peek e event
  generalize e.react peek event = r at hr ⊢
  cases hr with
  | idle | clicked | moved => exact Or.inl ⟨rfl, rfl⟩
  | retyped =>
    dsimp only
    exact follows_retype peek rfl rfl _
  | entered =>
    dsimp only
    exact follows_commit peek e _
  | escaped =>
    dsimp only
    refine follows_retype peek ?_ ?_ "" <;> rfl
  | removedLast => exact follows_setFormula peek e _
  | selected =>
    dsimp only
    exact follows_commit peek e _
  | deleted => exact follows_setFormula peek e _
  | edited =>
    dsimp only
    refine follows_retype peek ?_ ?_ _
    · rw [key, setFormula_text, key]
    · rw [setFormula_candidates]

/-- As long as the text is not replaced, key and candidates stay. -/
theorem react_of_not_retyped (peek : Peek) (e : Editor) (event : InputEvent)
    (h : (e.react peek event).retyped = false) :
    (e.react peek event).editor.key = e.key ∧
      (e.react peek event).editor.candidates = e.candidates := by
  have hr := reacted peek e event
  generalize e.react peek event = r at hr h ⊢
  cases hr with
  | idle | clicked | moved => exact ⟨rfl, rfl⟩
  | removedLast => exact ⟨by rw [key, setFormula_text, key], setFormula_candidates e _⟩
  | deleted => exact ⟨by rw [key, setFormula_text, key], setFormula_candidates e _⟩
  | retyped | entered | escaped | selected | edited => cases h

/-! ## Events that end the text -/

/-- Events that commit a token or give the text up. -/
inductive Closes (e : Editor) : InputEvent → Prop where
  | enter (h : Text.trim e.text ≠ "") : Closes e (.key Key.enter.name)
  | escape : Closes e (.key Key.escape.name)
  | select {i : Int} {c : Operand} (h : at? e.suggestions i = some c) : Closes e (.select i)

theorem Closes.text {event : InputEvent} (h : e.Closes event) (peek : Peek) :
    (e.react peek event).editor.text = "" := by
  cases h with
  | enter h =>
    have hr : e.react peek (.key Key.enter.name) = e.enter peek := rfl
    rw [hr, enter_eq peek h, commit_text]
  | escape => exact retype_text peek { e with highlighted := none } ""
  | @select i c h =>
    have hr : e.react peek (.select i) = e.select peek i := rfl
    rw [hr, select_eq peek h, commit_text]

/-! ## Events keep the shape -/

theorem refilter_valid (hcursor : ∀ i ∈ e.cursor, i ≤ e.formula.length)
    (hhigh : ∀ i ∈ e.highlighted, i < e.suggestions.length) : e.refilter.Valid := by
  rw [refilter_eq]
  refine ⟨hcursor, ?_, rfl⟩
  intro i hi
  by_cases h : Suggestion.fitting e.candidates e.formula = e.suggestions
  · rw [if_pos h] at hi
    simpa only [h] using hhigh i hi
  · rw [if_neg h] at hi
    cases hi

theorem Valid.setFormula (h : e.Valid) (formula : List Token) : (e.setFormula formula).Valid := by
  apply refilter_valid
  · intro i hi
    simpa using (Option.mem_filter_iff.mp hi).2
  · exact h.highlighted

theorem Valid.retype (h : e.Valid) (peek : Peek) (text : String) :
    (Editor.retype peek e text).Valid := by
  rw [retype_eq]
  split
  · exact ⟨h.cursor, h.highlighted, h.suggestions⟩
  · exact ⟨h.cursor, by simp, rfl⟩

theorem Valid.unhighlight (h : e.Valid) : Valid { e with highlighted := none } :=
  ⟨h.cursor, by simp, h.suggestions⟩

theorem Valid.uncursor (h : e.Valid) : Valid { e with cursor := none } :=
  ⟨by simp, h.highlighted, h.suggestions⟩

theorem Valid.release (h : e.Valid) : Valid { e with cursor := none, highlighted := none } :=
  ⟨by simp, by simp, h.suggestions⟩

theorem Valid.commit (h : e.Valid) (peek : Peek) (t : Token) : (e.commit peek t).Valid := by
  rw [commit_eq]
  exact (h.setFormula _).release.retype peek ""

theorem Valid.install (h : e.Valid) (candidates : List Operand) : (e.install candidates).Valid :=
  refilter_valid h.cursor h.highlighted

theorem Valid.click (h : e.Valid) (index : Int) : (e.click index).Valid := by
  refine ⟨?_, h.highlighted, h.suggestions⟩
  intro i hi
  cases hi
  exact Nat.min_le_right _ _

theorem next_lt {count : Nat} (hpos : 0 < count) (i : Option Nat) : next count i < count := by
  cases i with
  | none => exact hpos
  | some i =>
    by_cases h : i < count
    · simpa [next, h] using Nat.mod_lt _ hpos
    · simpa [next, h] using hpos

theorem previous_lt {count : Nat} (hpos : 0 < count) (i : Option Nat) :
    previous count i < count := by
  cases i with
  | none => exact Nat.sub_lt hpos Nat.one_pos
  | some i =>
    by_cases h : i < count
    · simpa [previous, h] using Nat.mod_lt _ hpos
    · simpa [previous, h] using Nat.sub_lt hpos Nat.one_pos

theorem Valid.react (h : e.Valid) (peek : Peek) (event : InputEvent) :
    (e.react peek event).editor.Valid := by
  have hr := reacted peek e event
  generalize e.react peek event = r at hr ⊢
  cases hr with
  | idle => exact h
  | retyped =>
    dsimp only
    exact h.retype peek _
  | entered =>
    dsimp only
    exact h.commit peek _
  | escaped =>
    dsimp only
    exact h.unhighlight.retype peek ""
  | removedLast =>
    dsimp only
    exact (h.setFormula _).uncursor
  | moved _ hk hsome =>
    have hpos := List.length_pos_iff.mpr hsome
    refine ⟨h.cursor, ?_, h.suggestions⟩
    intro i hi
    cases hi
    rcases hk with ⟨-, rfl⟩ | ⟨-, rfl⟩
    · exact next_lt hpos _
    · exact previous_lt hpos _
  | clicked => exact h.click _
  | selected =>
    dsimp only
    exact h.commit peek _
  | deleted =>
    dsimp only
    exact h.setFormula _
  | edited =>
    dsimp only
    exact (h.setFormula _).retype peek _

end Editor

end Formulary
