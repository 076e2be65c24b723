import Formulary.Proofs.Controller.Independence
import Formulary.Proofs.Editor.Effect
import Formulary.Proofs.Terminal.Line
import Mathlib.Logic.Function.Iterate

/-!
# Backspacing

A session presses `Backspace` as an input field does: with a text it takes the last character, and
fetches suggestions for what is left; without a text it takes the last token. What is fetched leaves no
trace in text and formula. So line after line takes first the text away, from its end, and then the
formula, and when both are empty they stay so.
-/

namespace Formulary

namespace Editor

variable {e : Editor}

/-- What `Backspace` leaves: a character less, or without a text a token less and no cursor. -/
def shortened (e : Editor) : Editor :=
  if e.text = "" then { e with formula := e.formula.dropLast, cursor := none }
  else { e with text := String.ofList e.text.toList.dropLast }

theorem shortened_of_blank (h : e.text = "") :
    e.shortened = { e with formula := e.formula.dropLast, cursor := none } := if_pos h

theorem shortened_of_text (h : e.text ≠ "") :
    e.shortened = { e with text := String.ofList e.text.toList.dropLast } := if_neg h

theorem bare_shortened (e : Editor) : e.shortened.bare = e.bare.shortened := by
  by_cases h : e.text = ""
  · rw [shortened_of_blank h, shortened_of_blank (e := e.bare) h]
    rfl
  · rw [shortened_of_text h, shortened_of_text (e := e.bare) h]
    rfl

theorem exists_text_eq_append (h : e.text ≠ "") :
    (∃ c, e.text.toList = e.shortened.text.toList ++ [c]) ∧ e.shortened.formula = e.formula := by
  have hne : e.text.toList ≠ [] := fun heq => h (String.toList_eq_nil_iff.mp heq)
  rw [shortened_of_text h, String.toList_ofList]
  exact ⟨⟨_, (List.dropLast_concat_getLast hne).symm⟩, rfl⟩

/-- After so many presses as many characters are gone, and those beyond the text have taken tokens. -/
theorem iterate_shortened (e : Editor) (k : Nat) :
    (shortened^[k] e).text.toList.length = e.text.toList.length - k ∧
      (shortened^[k] e).formula.length = e.formula.length - (k - e.text.toList.length) ∧
      (k ≤ e.text.toList.length →
        (shortened^[k] e).formula = e.formula ∧ (shortened^[k] e).cursor = e.cursor) := by
  induction k with
  | zero => simp
  | succ k ih =>
    obtain ⟨htext, hformula, hkept⟩ := ih
    rw [Function.iterate_succ_apply']
    generalize shortened^[k] e = e' at htext hformula hkept ⊢
    by_cases hblank : e'.text = ""
    · have hnone : e.text.toList.length - k = 0 := by rw [← htext, hblank]; rfl
      rw [shortened_of_blank hblank]
      dsimp only
      rw [List.length_dropLast]
      exact ⟨by omega, by omega, fun hle => by omega⟩
    · have hsome : e'.text.toList.length ≠ 0 := by simpa using hblank
      rw [shortened_of_text hblank]
      dsimp only
      rw [String.toList_ofList, List.length_dropLast]
      exact ⟨by omega, by omega, fun hle => hkept (by omega)⟩

end Editor

namespace Session

variable {s : Session} {line : String}

/-! ## One line -/

/-- Lines that press `Backspace`: commands by one of the names for it. -/
def Backs (line : String) : Prop :=
  ∃ name, Names line name ∧ SessionCommand.ofName? name = some .back

/-- The session after such a line. -/
def backspaced (s : Session) : Session :=
  if s.editor.text.isEmpty then s.handle (.key Key.backspace.name)
  else (s.retype (String.ofList s.editor.text.toList.dropLast)).value

theorem Backs.takeLine (h : Backs line) (s : Session) :
    (s.takeLine line).value = (.text s.backspaced.render.value, s.backspaced) := by
  obtain ⟨name, hline, hname⟩ := h
  obtain ⟨argument, hrun⟩ := hline.takeLine hname s
  rw [hrun, ← value_shown]
  unfold run backspaced
  dsimp only
  split <;> rfl

/-- Whatever is fetched, text and formula are shortened. -/
theorem Settled.bare_backspaced (h : s.Settled) :
    s.backspaced.editor.bare = s.editor.shortened.bare := by
  unfold Session.backspaced
  split
  · rename_i hblank
    have hpress : (s.handle (.key Key.backspace.name)).editor = s.editor.backspace.editor := by
      rw [editor, handle, Controller.handle_editor, Editor.react_key]
      rfl
    rw [hpress, Editor.backspace, if_pos hblank]
    rw [String.isEmpty_iff] at hblank
    simp [Editor.bare_eq_iff, Editor.shortened_of_blank hblank, Formula.removeLast]
  · rename_i hsome
    have hsome' : s.editor.text ≠ "" := fun heq => hsome (String.isEmpty_iff.mpr heq)
    obtain ⟨candidates, heq⟩ :=
      (h.refreshed (.text (String.ofList s.editor.text.toList.dropLast))).editor
    rw [Editor.shortened_of_text hsome', retype, editor, heq, Editor.bare_install]
    simp only [handle, Controller.handle_editor, Editor.react]
    simp [Editor.bare_eq_iff, editor]

/-! ## Line after line -/

/-- A line, with what the source answers while it is taken. -/
structure AnsweredLine where
  answer : String → Answer
  line : String

/-- The session with a source that answers in this way. -/
def answering (s : Session) (answer : String → Answer) : Session :=
  { s with supply := { s.supply with answer } }

theorem Settled.answering (h : s.Settled) (answer : String → Answer) : (s.answering answer).Settled :=
  ⟨h.controller, h.free, h.sure⟩

/-- Takes a line with the answers that the source gives to it. -/
def takeAnswered (s : Session) (l : AnsweredLine) : Noted (LineResult × Session) :=
  (s.answering l.answer).takeLine l.line

/-- The session after lines. -/
def takeLines (s : Session) (lines : List AnsweredLine) : Session :=
  lines.foldl (fun s l => (s.takeAnswered l).value.2) s

theorem Settled.takeAnswered (h : s.Settled) (l : AnsweredLine) :
    (s.takeAnswered l).value.2.Settled :=
  (h.answering l.answer).takeLine l.line

theorem Settled.bare_takeAnswered (h : s.Settled) {l : AnsweredLine} (hl : Backs l.line) :
    (s.takeAnswered l).value.2.editor.bare = s.editor.shortened.bare := by
  rw [Session.takeAnswered, hl.takeLine, (h.answering l.answer).bare_backspaced]
  rfl

theorem Settled.takeLines (h : s.Settled) (lines : List AnsweredLine) :
    (s.takeLines lines).Settled := by
  induction lines generalizing s with
  | nil => exact h
  | cons l lines ih => exact ih (h.takeAnswered l)

theorem Settled.bare_takeLines (h : s.Settled) {lines : List AnsweredLine}
    (hlines : ∀ l ∈ lines, Backs l.line) :
    (s.takeLines lines).editor.bare = Editor.shortened^[lines.length] s.editor.bare := by
  induction lines generalizing s with
  | nil => rfl
  | cons l lines ih =>
    have hrest := ih (h.takeAnswered l) fun x hx => hlines x (List.mem_cons_of_mem l hx)
    rw [h.bare_takeAnswered (hlines l List.mem_cons_self), Editor.bare_shortened] at hrest
    rw [List.length_cons, Function.iterate_succ_apply]
    exact hrest

/-- Commands that press `Backspace` take the text away from its end and leave the tokens where they
are; when the text is empty they take away the tokens, the last one first, and the cursor is lost. After
as many commands as there are characters and tokens nothing is left, and nothing comes of more of them.
All this holds whatever the source answers, and each command is answered with a picture. -/
theorem backspacing_empties_in_order (h : Reached s) (lines : List AnsweredLine)
    (hlines : ∀ l ∈ lines, Backs l.line) {l : AnsweredLine} (hl : Backs l.line) :
    let n := s.editor.text.toList.length
    let m := s.editor.formula.length
    let k := lines.length
    let r := ((s.takeLines lines).takeAnswered l).value
    let e := (s.takeLines lines).editor
    let e' := r.2.editor
    r.1 = .text r.2.render.value ∧
      (k ≤ n → e.formula = s.editor.formula ∧ e.cursor = s.editor.cursor) ∧
      (k < n → (∃ c, e.text.toList = e'.text.toList ++ [c]) ∧ e'.formula = e.formula) ∧
      (n ≤ k → k < n + m →
        e.text = "" ∧ e'.text = "" ∧ (∃ t, e.formula = e'.formula ++ [t]) ∧ e'.cursor = none) ∧
      (n + m ≤ k → e.text = "" ∧ e.formula = [] ∧ e'.text = "" ∧ e'.formula = []) := by
  intro n m k r e e'
  have hpicture : r.1 = .text r.2.render.value := by
    dsimp only [r, takeAnswered]
    rw [hl.takeLine]
  obtain ⟨htext, hformula, hkept⟩ := s.editor.bare.iterate_shortened k
  rw [← h.settled.bare_takeLines hlines] at htext hformula hkept
  have hstep : e'.bare = e.shortened.bare := (h.settled.takeLines lines).bare_takeAnswered hl
  obtain ⟨hformula', htext', hcursor'⟩ := Editor.bare_eq_iff.mp hstep
  have hblank : e.text = "" ↔ n ≤ k := by
    rw [← String.toList_eq_nil_iff, ← List.length_eq_zero_iff, ← Nat.sub_eq_zero_iff_le]
    exact iff_of_eq (congrArg (· = 0) htext)
  have hempty : e.formula = [] ↔ m ≤ k - n := by
    rw [← List.length_eq_zero_iff, ← Nat.sub_eq_zero_iff_le]
    exact iff_of_eq (congrArg (· = 0) hformula)
  refine ⟨hpicture, hkept, ?_, ?_, ?_⟩
  · intro hlt
    rw [htext', hformula']
    exact Editor.exists_text_eq_append fun heq => absurd (hblank.mp heq) (Nat.not_le_of_lt hlt)
  · intro hle hlt
    have htext₀ := hblank.mpr hle
    have hsome : e.formula ≠ [] := by
      intro heq
      have hgone := hempty.mp heq
      omega
    rw [htext', hformula', hcursor', Editor.shortened_of_blank htext₀]
    exact ⟨htext₀, htext₀, ⟨_, (List.dropLast_concat_getLast hsome).symm⟩, rfl⟩
  · intro hle
    have htext₀ := hblank.mpr (by omega)
    have hformula₀ := hempty.mpr (by omega)
    rw [htext', hformula', Editor.shortened_of_blank htext₀, hformula₀]
    exact ⟨htext₀, rfl, htext₀, rfl⟩

/-- A token stands before the cursor, and behind the first character that goes a blank is left. The
source is down, and the command has two names. -/
theorem backspacing_empties_in_order_blank :
    let reply : String → Reply := fun _ => .refused "timed out"
    let config : Config := { endpoint := some "http://localhost" }
    let fresh : Session := { config, controller := {}, supply := config.supply reply }
    let entered := ((fresh.takeLine "3").value.2.takeLine "").value.2
    let s := ((entered.takeLine ":at 0").value.2.takeLine " a").value.2
    let down : String → Answer := fun _ => .breakdown "RuntimeError" "down"
    let back : AnsweredLine := ⟨down, ":back"⟩
    let bs : AnsweredLine := ⟨down, ":BS now"⟩
    let third := ((s.takeLines [back, bs]).takeAnswered back).value.2.editor
    create config ⟨false⟩ reply = .ok fresh ∧ s.editor.text = " a" ∧ s.editor.cursor = some 1 ∧
      (s.takeLines [back]).editor.text = " " ∧
      ((s.takeLines [back]).takeAnswered bs).value.2.editor.formula = s.editor.formula ∧
      third.text = "" ∧ third.formula = [] ∧ third.cursor = none ∧
      ((s.takeLines [back, bs, back]).takeAnswered bs).value.2.editor.formula = [] := by
  intro reply config fresh entered s down back bs third
  have hcreate : create config ⟨false⟩ reply = .ok fresh := rfl
  have hentered : Reached entered := ((Reached.created hcreate).line "3").line ""
  have hreached : Reached s := (hentered.line ":at 0").line " a"
  have hback : Backs back.line := ⟨"back", ⟨"back".toList, by decide, by decide +kernel⟩, by decide⟩
  have hbs : Backs bs.line := ⟨"bs", ⟨"BS now".toList, by decide, by decide +kernel⟩, by decide⟩
  have htext : s.editor.text = " a" := by decide +kernel
  have hlength : s.editor.formula.length = 1 := by decide +kernel
  have hcursor : s.editor.cursor = some 1 := by decide +kernel
  have hblank : (s.takeLines [back]).editor.text = " " := by decide +kernel
  clear_value s
  obtain ⟨-, hkept, hfirst, -⟩ :=
    backspacing_empties_in_order hreached [back] (by simpa using hback) hbs
  obtain ⟨-, -, -, htokens, -⟩ :=
    backspacing_empties_in_order hreached [back, bs] (by simpa using ⟨hback, hbs⟩) hback
  obtain ⟨-, -, -, -, hempty⟩ :=
    backspacing_empties_in_order hreached [back, bs, back] (by simpa using ⟨hback, hbs, hback⟩)
      hbs
  rw [htext] at hkept hfirst
  rw [htext, hlength] at htokens hempty
  obtain ⟨-, hnone, -, hlost⟩ := htokens (by decide) (by decide)
  obtain ⟨-, hgone, -, hstays⟩ := hempty (by decide)
  exact ⟨hcreate, htext, hcursor, hblank, (hfirst (by decide)).2.trans (hkept (by decide)).1, hnone,
    hgone, hlost, hstays⟩

end Session

end Formulary
