import Formulary.Proofs.Controller.Highlight
import Formulary.Proofs.Decimal.Notation
import Formulary.Proofs.Terminal.Answer

/-!
# The suggestions in view

A picture shows at most eight suggestions, and the one that is highlighted is always among them. The
lines of a picture are of different kinds, and the kind of a line can be read off its text. So the mark
stands on one line only, on that of the suggestion which `Enter` commits.
-/

namespace Formulary.Session

variable {s : Session} {line : String}

/-! ## The window -/

/-- The suggestions in view are a part of the list, as many as there is room for. -/
theorem visibleWindow_bounds (count : Nat) (highlighted : Option Int) :
    0 ≤ (visibleWindow count highlighted).1 ∧
      (visibleWindow count highlighted).1 ≤ (visibleWindow count highlighted).2 ∧
      (visibleWindow count highlighted).2 ≤ count ∧
      (visibleWindow count highlighted).2 - (visibleWindow count highlighted).1 =
        min (count : Int) 8 := by
  unfold visibleWindow windowSize
  split <;> dsimp only <;> omega

theorem mem_visibleWindow {count i : Nat} (h : i < count) :
    (visibleWindow count (some (i : Int))).1 ≤ i ∧ i < (visibleWindow count (some (i : Int))).2 := by
  unfold visibleWindow windowSize
  split <;> dsimp only [Option.getD_some] <;> omega

/-- The numbers of the first suggestion in view and of the one behind the last. -/
def window (s : Session) : Int × Int :=
  visibleWindow s.editor.suggestions.length (s.editor.highlighted.map Int.ofNat)

theorem window_bounds (s : Session) : 0 ≤ s.window.1 ∧ s.window.1 ≤ s.window.2 ∧
    s.window.2 ≤ s.editor.suggestions.length := by
  obtain ⟨hstart, hle, hstop, -⟩ := visibleWindow_bounds s.editor.suggestions.length
    (s.editor.highlighted.map Int.ofNat)
  exact ⟨hstart, hle, hstop⟩

/-- The suggestions in view with their numbers. -/
def inView (s : Session) : List (Operand × Nat) :=
  (s.editor.suggestions.zipIdx.drop s.window.1.toNat).take (s.window.2 - s.window.1).toNat

theorem mem_inView {c : Operand} {k : Nat} :
    (c, k) ∈ s.inView ↔ s.editor.suggestions[k]? = some c ∧ s.window.1 ≤ k ∧ k < s.window.2 := by
  obtain ⟨hstart, hle, hstop⟩ := s.window_bounds
  simp only [inView, List.mem_iff_getElem?, List.getElem?_take, List.getElem?_drop,
    List.getElem?_zipIdx]
  constructor
  · rintro ⟨j, hj⟩
    split at hj
    · obtain ⟨x, hx, heq⟩ := Option.map_eq_some_iff.mp hj
      cases heq
      refine ⟨by rwa [Nat.zero_add], ?_, ?_⟩ <;> omega
    · cases hj
  · rintro ⟨hk, hlow, hhigh⟩
    refine ⟨k - s.window.1.toNat, ?_⟩
    have hadd : s.window.1.toNat + (k - s.window.1.toNat) = k := by omega
    rw [if_pos (by omega), hadd, hk, Option.map_some, Nat.zero_add]

/-- The numbers of the suggestions in view are different. -/
theorem nodup_inView (s : Session) : (s.inView.map Prod.snd).Nodup := by
  have hsub : s.inView.Sublist s.editor.suggestions.zipIdx :=
    (List.take_sublist _ _).trans (List.drop_sublist _ _)
  have hmap := hsub.map Prod.snd
  rw [List.zipIdx_map_snd] at hmap
  exact hmap.nodup List.nodup_range'

/-! ## The lines of a picture -/

def headingLine (s : Session) : String := "  " ++ s.palette.paint [.dim] "suggestions:"

/-- The number of all suggestions. -/
def totalLine (s : Session) : String :=
  "    " ++ s.palette.paint [.dim] s!"({s.editor.suggestions.length} total)"

def resultLine (s : Session) : String :=
  "  Result: " ++ s.palette.paint [.bold] (Formula.report s.config.scope s.editor.formula).value

/-- The lines that a picture is made of. A name with a line break in it is a part of one line here. -/
def pictureLines (s : Session) : List String :=
  s.tokenLine :: s.suggestionLines ++ if s.editor.formula.isEmpty then [] else [s.resultLine]

theorem render_value (s : Session) : s.render.value = "\n".intercalate s.pictureLines := by
  unfold render pictureLines
  dsimp only
  split
  · rw [List.append_nil]
    rfl
  · rw [Noted.value_bind]
    rfl

theorem suggestionLines_eq (s : Session) :
    s.suggestionLines =
      (if s.editor.suggestions = [] then [] else [s.headingLine]) ++
        s.inView.map (fun x => s.suggestionRow x.2 x.1) ++
        (if s.window.2 - s.window.1 < s.editor.suggestions.length then [s.totalLine] else []) := by
  by_cases hempty : s.editor.suggestions = []
  · simp [suggestionLines, inView, window, visibleWindow, windowSize, hempty]
  · have hempty' : s.editor.suggestions.isEmpty = false := by simpa using hempty
    simp only [suggestionLines, hempty', hempty, if_false]
    rfl

theorem mem_suggestionLines :
    line ∈ s.suggestionLines ↔ (s.editor.suggestions ≠ [] ∧ line = s.headingLine) ∨
      (∃ c k, (c, k) ∈ s.inView ∧ s.suggestionRow k c = line) ∨
      (s.window.2 - s.window.1 < s.editor.suggestions.length ∧ line = s.totalLine) := by
  rw [suggestionLines_eq, List.append_assoc, List.mem_append, List.mem_append, List.mem_ite_nil_left,
    List.mem_ite_nil_right, List.mem_singleton, List.mem_singleton, List.mem_map, Prod.exists]

theorem mem_pictureLines :
    line ∈ s.pictureLines ↔ line = s.tokenLine ∨ line ∈ s.suggestionLines ∨
      (s.editor.formula ≠ [] ∧ line = s.resultLine) := by
  rw [pictureLines, List.cons_append, List.mem_cons, List.mem_append]
  split <;> simp_all

/-! ## Kinds of lines -/

/-- The kinds of the lines, as far as they are told apart. -/
inductive LineKind where
  | marked | listed | counted | other
deriving DecidableEq, Repr

/-- The kind of a line, by what stands behind its margin, which may be a colour. -/
def lineKind (line : String) : LineKind :=
  match line.toList.drop 2 with
  | '>' :: _ => .marked
  | '\x1b' :: '[' :: '7' :: _ => .marked
  | ' ' :: ' ' :: '[' :: _ => .listed
  | ' ' :: ' ' :: '(' :: _ => .counted
  | ' ' :: ' ' :: '\x1b' :: _ => .counted
  | _ => .other

/-- A text with the mark of the highlight. -/
def markedLine (p : Palette) (row : String) : String := "  " ++ p.paint [.reverse] ("> " ++ row)

theorem toList_paint (p : Palette) (t : Tint) (text : String) :
    (p.paint [t] text).toList =
      if p.colored then t.code.toList ++ text.toList ++ Tint.reset.toList else text.toList := by
  unfold Palette.paint
  split
  · simp [String.join]
  · rfl

theorem lineKind_markedLine (p : Palette) (row : String) : lineKind (markedLine p row) = .marked := by
  unfold lineKind markedLine
  rw [String.toList_append, toList_paint, String.toList_append]
  cases p.colored <;> rfl

theorem lineKind_headingLine (s : Session) : lineKind s.headingLine = .other := by
  unfold lineKind headingLine
  rw [String.toList_append, toList_paint]
  cases s.palette.colored <;> rfl

theorem lineKind_totalLine (s : Session) : lineKind s.totalLine = .counted := by
  unfold lineKind totalLine
  rw [String.toList_append, toList_paint, String.toList_append, String.toList_append]
  cases s.palette.colored <;> rfl

theorem lineKind_resultLine (s : Session) : lineKind s.resultLine = .other := by
  unfold lineKind resultLine
  rw [String.toList_append]
  rfl

theorem suggestionRow_of_highlighted {k : Nat} (h : s.editor.highlighted = some k) (c : Operand) :
    s.suggestionRow k c = markedLine s.palette s!"[{k}] {c.name}" := by
  simp only [suggestionRow, h, if_true, markedLine]

theorem suggestionRow_of_not_highlighted {k : Nat} (h : s.editor.highlighted ≠ some k) (c : Operand) :
    s.suggestionRow k c = "    " ++ s!"[{k}] {c.name}" := by
  simp only [suggestionRow, h, if_false]

theorem lineKind_suggestionRow (s : Session) (k : Nat) (c : Operand) :
    lineKind (s.suggestionRow k c) =
      if s.editor.highlighted = some k then .marked else .listed := by
  split
  · rename_i h
    rw [suggestionRow_of_highlighted h, lineKind_markedLine]
  · rename_i h
    rw [suggestionRow_of_not_highlighted h]
    unfold lineKind
    simp only [String.toList_append]
    rfl

theorem exists_intercalate_eq (separator a : String) (rest : List String) :
    ∃ more, separator.intercalate (a :: rest) = a ++ more := by
  cases rest with
  | nil => exact ⟨"", by rw [String.intercalate_singleton, String.append_empty]⟩
  | cons b rest => exact ⟨_, by rw [String.intercalate_cons_cons, String.append_assoc]⟩

/-- Behind the margin the tokens start with the cursor or with the number of the first one. -/
theorem exists_tokenLine_eq (s : Session) : ∃ (t : Tint) (text rest : String),
    s.tokenLine = "  " ++ (s.palette.paint [t] text ++ rest) ∧
      (t, text) ∈ [(.dim, "(empty formula)"), (.yellow, "|"), (.gray, "0:")] := by
  unfold tokenLine
  dsimp only
  split
  · exact ⟨.dim, _, "", by rw [String.append_empty], by simp⟩
  · rename_i hformula
    cases hcells : s.editor.formula with
    | nil => simp [hcells] at hformula
    | cons t rest =>
      rw [List.zipIdx_cons, List.flatMap_cons, List.append_assoc, List.append_assoc]
      split
      · obtain ⟨more, hmore⟩ := exists_intercalate_eq "  " s.cursorMark _
        rw [List.singleton_append, hmore]
        exact ⟨.yellow, _, more, rfl, by simp⟩
      · obtain ⟨more, hmore⟩ := exists_intercalate_eq "  " (s.tokenCell 0 t) _
        rw [List.nil_append, List.singleton_append, hmore, tokenCell, String.append_assoc]
        exact ⟨.gray, _, _, rfl, by simp; rfl⟩

theorem lineKind_tokenLine (s : Session) : lineKind s.tokenLine = .other := by
  obtain ⟨t, text, rest, heq, hmem⟩ := s.exists_tokenLine_eq
  rw [heq, lineKind, String.toList_append, String.toList_append, toList_paint]
  simp only [List.mem_cons, List.not_mem_nil, or_false, Prod.mk.injEq] at hmem
  rcases hmem with ⟨rfl, rfl⟩ | ⟨rfl, rfl⟩ | ⟨rfl, rfl⟩ <;>
    cases s.palette.colored <;> rfl

/-- What a line of a picture is, as far as its kind tells. -/
theorem cases_of_mem_pictureLines (hline : line ∈ s.pictureLines) :
    lineKind line = .other ∨
      (s.window.2 - s.window.1 < s.editor.suggestions.length ∧ line = s.totalLine) ∨
      ∃ c k, (c, k) ∈ s.inView ∧ s.suggestionRow k c = line := by
  rcases mem_pictureLines.mp hline with rfl | hsuggestion | ⟨-, rfl⟩
  · exact Or.inl s.lineKind_tokenLine
  · rcases mem_suggestionLines.mp hsuggestion with ⟨-, rfl⟩ | hrow | htotal
    · exact Or.inl s.lineKind_headingLine
    · exact Or.inr (Or.inr hrow)
    · exact Or.inr (Or.inl htotal)
  · exact Or.inl s.lineKind_resultLine

theorem suggestionRow_mem_of_inView {c : Operand} {k : Nat} (h : (c, k) ∈ s.inView) :
    s.suggestionRow k c ∈ s.pictureLines :=
  mem_pictureLines.mpr (Or.inr (Or.inl (mem_suggestionLines.mpr (Or.inr (Or.inl ⟨c, k, h, rfl⟩)))))

theorem totalLine_mem_iff :
    s.totalLine ∈ s.pictureLines ↔ s.window.2 - s.window.1 < s.editor.suggestions.length := by
  constructor
  · intro h
    rcases cases_of_mem_pictureLines h with hother | ⟨hshort, -⟩ | ⟨c, k, -, hrow⟩
    · rw [lineKind_totalLine] at hother
      cases hother
    · exact hshort
    · have hkind := congrArg lineKind hrow
      rw [lineKind_suggestionRow, lineKind_totalLine] at hkind
      split at hkind <;> cases hkind
  · intro h
    exact mem_pictureLines.mpr
      (Or.inr (Or.inl (mem_suggestionLines.mpr (Or.inr (Or.inr ⟨h, rfl⟩)))))

/-- Of the suggestions only the highlighted one has a line with a mark. -/
theorem exists_of_marked {row : String} (h : markedLine s.palette row ∈ s.pictureLines) :
    ∃ c k, (c, k) ∈ s.inView ∧ s.editor.highlighted = some k := by
  have hmarked := lineKind_markedLine s.palette row
  rcases cases_of_mem_pictureLines h with hother | ⟨-, htotal⟩ | ⟨c, k, hmem, hrow⟩
  · rw [hmarked] at hother
    cases hother
  · rw [htotal, lineKind_totalLine] at hmarked
    cases hmarked
  · rw [← hrow, lineKind_suggestionRow] at hmarked
    split at hmarked
    · rename_i hk
      exact ⟨c, k, hmem, hk⟩
    · cases hmarked

/-! ## The lines of suggestions -/

/-- The number of a suggestion is what stands before the first closing bracket. -/
theorem takeWhile_numbered (k : Nat) (name : String) :
    ((s!"[{k}] {name}").toList.takeWhile (· ≠ ']')) = '[' :: Decimal.numeral k := by
  have hdigits : (toString k).toList = Decimal.numeral k := by
    rw [Nat.toString_eq_ofList_toDigits, String.toList_ofList, Decimal.numeral]
  have hopen : ∀ c ∈ Decimal.numeral k, decide (c ≠ ']') = true := by
    intro c hc
    have hdigit := Text.isDigit_of_mem_numeral hc
    refine decide_eq_true ?_
    rintro rfl
    cases hdigit
  have htext : (s!"[{k}] {name}").toList =
      '[' :: (Decimal.numeral k ++ ']' :: ' ' :: name.toList) := by
    simp only [String.toList_append]
    change ['['] ++ (toString k).toList ++ [']', ' '] ++ name.toList = _
    rw [hdigits]
    simp
  rw [htext, List.takeWhile_cons_of_pos (by decide), List.takeWhile_append_of_pos hopen,
    List.takeWhile_cons_of_neg (by decide), List.append_nil]

theorem suggestionRow_inj {j k : Nat} {c d : Operand} (hj : s.editor.highlighted ≠ some j)
    (hk : s.editor.highlighted ≠ some k) (h : s.suggestionRow j c = s.suggestionRow k d) :
    j = k := by
  rw [suggestionRow_of_not_highlighted hj, suggestionRow_of_not_highlighted hk] at h
  have hrow := congrArg (fun t : String => (t.toList.drop 4).takeWhile (· ≠ ']')) h
  simp only [String.toList_append (s := "    ")] at hrow
  have hnumber : '[' :: Decimal.numeral j = '[' :: Decimal.numeral k := by
    rw [← takeWhile_numbered j c.name, ← takeWhile_numbered k d.name]
    exact hrow
  exact Decimal.numeral_inj.mp (List.cons.inj hnumber).2

/-- The suggestions that have a line are those in view. -/
theorem suggestionRow_mem_iff (hvalid : s.editor.Valid) {c : Operand} {k : Nat}
    (hk : s.editor.suggestions[k]? = some c) :
    s.suggestionRow k c ∈ s.pictureLines ↔ s.window.1 ≤ k ∧ k < s.window.2 := by
  constructor
  · intro hmem
    by_cases hhigh : s.editor.highlighted = some k
    · rw [window, hhigh]
      exact mem_visibleWindow (hvalid.highlighted k hhigh)
    have hlisted : lineKind (s.suggestionRow k c) = .listed := by
      rw [lineKind_suggestionRow, if_neg hhigh]
    rcases cases_of_mem_pictureLines hmem with hother | ⟨-, htotal⟩ | ⟨d, j, hview, hrow⟩
    · rw [hlisted] at hother
      cases hother
    · rw [htotal, lineKind_totalLine] at hlisted
      cases hlisted
    · have hj : s.editor.highlighted ≠ some j := by
        intro hj
        rw [← hrow, lineKind_suggestionRow, if_pos hj] at hlisted
        cases hlisted
      obtain rfl := suggestionRow_inj hj hhigh hrow
      exact (mem_inView.mp hview).2
  · exact fun hview => suggestionRow_mem_of_inView (mem_inView.mpr ⟨hk, hview⟩)

/-- A suggestion is out of view exactly if the view is shorter than the list. -/
theorem exists_out_of_view_iff (s : Session) :
    (∃ (k : Nat) (c : Operand), s.editor.suggestions[k]? = some c ∧
        ¬ (s.window.1 ≤ k ∧ k < s.window.2)) ↔
      s.window.2 - s.window.1 < s.editor.suggestions.length := by
  obtain ⟨hstart, hle, hstop⟩ := s.window_bounds
  constructor
  · rintro ⟨k, c, hk, hout⟩
    have hlt := (List.getElem?_eq_some_iff.mp hk).1
    omega
  · intro hshort
    -- A view that starts with the list has the missing suggestions behind it.
    by_cases hfirst : 0 < s.window.1
    · have hlt : 0 < s.editor.suggestions.length := by omega
      exact ⟨0, _, List.getElem?_eq_getElem hlt, by omega⟩
    · have hlt : s.window.2.toNat < s.editor.suggestions.length := by omega
      exact ⟨_, _, List.getElem?_eq_getElem hlt, by omega⟩

/-! ## The line with the mark -/

/-- The picture around the line of a suggestion in view; no other line has a mark if it is the
highlighted one. -/
theorem exists_pictureLines_eq {c : Operand} {i : Nat} (hmem : (c, i) ∈ s.inView)
    (hhigh : s.editor.highlighted = some i) : ∃ above below,
      s.pictureLines = above ++ [s.suggestionRow i c] ++ below ∧
        ∀ line ∈ above ++ below, lineKind line ≠ .marked := by
  -- The number of a suggestion is its own, so that no other one in view is highlighted.
  obtain ⟨before, after, hsplit⟩ := List.append_of_mem hmem
  have hnodup := s.nodup_inView
  rw [hsplit, List.map_append, List.map_cons, List.nodup_middle, List.nodup_cons] at hnodup
  have hrows : ∀ x ∈ before ++ after, lineKind (s.suggestionRow x.2 x.1) = .listed := by
    intro x hx
    have hne : s.editor.highlighted ≠ some x.2 := by
      rw [hhigh]
      intro heq
      cases heq
      rw [← List.map_append] at hnodup
      exact hnodup.1 (List.mem_map.mpr ⟨x, hx, rfl⟩)
    rw [lineKind_suggestionRow, if_neg hne]
  refine ⟨s.tokenLine :: (if s.editor.suggestions = [] then [] else [s.headingLine]) ++
      before.map (fun x => s.suggestionRow x.2 x.1),
    after.map (fun x => s.suggestionRow x.2 x.1) ++
      (if s.window.2 - s.window.1 < s.editor.suggestions.length then [s.totalLine] else []) ++
      (if s.editor.formula.isEmpty then [] else [s.resultLine]), ?_, ?_⟩
  · rw [pictureLines, suggestionLines_eq, hsplit]
    simp only [List.map_append, List.map_cons, List.append_assoc, List.cons_append, List.nil_append]
  · intro line hline
    simp only [List.mem_append, List.mem_cons, List.mem_map, List.mem_ite_nil_left,
      List.mem_ite_nil_right, List.not_mem_nil, or_false] at hline
    rcases hline with ((rfl | ⟨-, rfl⟩) | ⟨x, hx, rfl⟩) | (⟨x, hx, rfl⟩ | ⟨-, rfl⟩) | ⟨-, rfl⟩
    · simp [lineKind_tokenLine]
    · simp [lineKind_headingLine]
    · simp [hrows x (List.mem_append_left _ hx)]
    · simp [hrows x (List.mem_append_right _ hx)]
    · simp [lineKind_totalLine]
    · simp [lineKind_resultLine]

/-! ## What `Enter` commits -/

/-- Lines that press `Enter`: a command to do so, a blank line, and the text that stands already. -/
inductive Enters (s : Session) (line : String) : Prop where
  | command {name : String} (hline : Names line name)
      (hname : SessionCommand.ofName? name = some .enter)
  | plain (hcolon : line.toList.head? ≠ some ':')
      (htext : Text.trim line = "" ∨ line = s.editor.text)

theorem Enters.takeLine (h : Enters s line) :
    (s.takeLine line).value.2 = s.handle (.key Key.enter.name) := by
  cases h with
  | command hline hname =>
    obtain ⟨argument, hrun⟩ := hline.takeLine hname s
    rw [hrun, run, value_shown]
  | plain hcolon htext =>
    unfold Session.takeLine
    split
    · rename_i rest hline
      simp [hline] at hcolon
    · rw [if_pos (by simpa using htext), value_shown]

/-- As long as there are suggestions, the text is not blank. -/
theorem Settled.text_of_suggestions (h : s.Settled) (hsome : s.editor.suggestions ≠ []) :
    Text.trim s.editor.text ≠ "" := by
  intro hblank
  have hkey : s.controller.editor.key = "" := hblank
  have hcandidates : s.controller.editor.candidates = [] := by
    rw [h.controller.shown, hkey]
    exact Provider.peek_blank h.controller.idle.provider.sound
  have hsuggestions := h.controller.idle.valid.suggestions
  rw [hcandidates] at hsuggestions
  refine hsome (List.eq_nil_of_subset_nil ?_)
  rw [editor, hsuggestions]
  exact Suggestion.fitting_subset [] _

/-- `Enter` puts the highlighted suggestion at the cursor. -/
theorem Settled.formula_enter (h : s.Settled) {i : Nat} {c : Operand}
    (hhigh : s.editor.highlighted = some i) (hc : s.editor.suggestions[i]? = some c)
    (hline : Enters s line) :
    (s.takeLine line).value.2.editor.formula =
      Formula.insert s.editor.formula (.operand c) (s.editor.cursor.map Int.ofNat) := by
  have hsome : s.editor.suggestions ≠ [] := by
    intro hempty
    simp [hempty] at hc
  have hentered : s.editor.entered = .operand c := by
    simp [Editor.entered, Editor.highlightedSuggestion, hhigh, hc]
  have htext : Text.trim s.editor.text ≠ "" := h.text_of_suggestions hsome
  have hpressed := s.controller.formula_enter false htext
  rw [Controller.move] at hpressed
  rw [← hentered, hline.takeLine, editor, handle]
  exact hpressed

/-- The suggestions in view are as many as there is room for. The highlighted one is among them: one
line of the picture has the mark, it is the line of this suggestion, and this is what `Enter` commits.
The number of all suggestions is told if there is one that has no line. -/
theorem highlighted_suggestion_in_view (h : Reached s) :
    let suggestions := s.editor.suggestions
    let view := visibleWindow suggestions.length (s.editor.highlighted.map Int.ofNat)
    (0 ≤ view.1 ∧ view.1 ≤ view.2 ∧ view.2 ≤ suggestions.length ∧
      view.2 - view.1 = min (suggestions.length : Int) 8) ∧
    s.render.value = "\n".intercalate s.pictureLines ∧
    (∀ (k : Nat) (c : Operand), suggestions[k]? = some c →
      (s.suggestionRow k c ∈ s.pictureLines ↔ view.1 ≤ k ∧ k < view.2)) ∧
    (s.editor.highlighted = none →
      ∀ line ∈ s.pictureLines, ∀ row, line ≠ markedLine s.palette row) ∧
    (∀ i, s.editor.highlighted = some i → view.1 ≤ i ∧ i < view.2 ∧
      ∃ c above below, suggestions[i]? = some c ∧
        s.pictureLines = above ++ [markedLine s.palette s!"[{i}] {c.name}"] ++ below ∧
        (∀ line ∈ above ++ below, ∀ row, line ≠ markedLine s.palette row) ∧
        ∀ line, Enters s line → (s.takeLine line).value.2.editor.formula =
          Formula.insert s.editor.formula (.operand c) (s.editor.cursor.map Int.ofNat)) ∧
    (s.totalLine ∈ s.pictureLines ↔ ∃ (k : Nat) (c : Operand), suggestions[k]? = some c ∧
      s.suggestionRow k c ∉ s.pictureLines) := by
  intro suggestions view
  have hvalid : s.editor.Valid := h.settled.controller.idle.valid
  have hview : ∀ (k : Nat) (c : Operand), suggestions[k]? = some c →
      (s.suggestionRow k c ∈ s.pictureLines ↔ view.1 ≤ k ∧ k < view.2) :=
    fun k c hk => suggestionRow_mem_iff hvalid hk
  refine ⟨visibleWindow_bounds _ _, s.render_value, hview, ?_, ?_, ?_⟩
  · rintro hnone _ hline row rfl
    obtain ⟨c, k, -, hk⟩ := exists_of_marked hline
    rw [hnone] at hk
    cases hk
  · intro i hhigh
    have hlt : i < suggestions.length := hvalid.highlighted i hhigh
    have hc : suggestions[i]? = some suggestions[i] := List.getElem?_eq_getElem hlt
    have hin : view.1 ≤ i ∧ i < view.2 := by
      have hmem := mem_visibleWindow hlt
      simpa [view, hhigh] using hmem
    obtain ⟨above, below, heq, hothers⟩ := exists_pictureLines_eq (mem_inView.mpr ⟨hc, hin⟩) hhigh
    refine ⟨hin.1, hin.2, suggestions[i], above, below, hc, ?_, ?_, ?_⟩
    · rw [heq, suggestionRow_of_highlighted hhigh]
    · rintro line hline row rfl
      exact hothers _ hline (lineKind_markedLine s.palette row)
    · exact fun line hline => h.settled.formula_enter hhigh hc hline
  · rw [totalLine_mem_iff, ← exists_out_of_view_iff]
    refine exists_congr fun k => exists_congr fun c => and_congr_right fun hk => ?_
    exact not_congr (hview k c hk).symm

/-- More suggestions than there is room for, the last of which is highlighted. -/
theorem highlighted_suggestion_in_view_last :
    let reply : String → Reply := fun _ => .refused "timed out"
    let config : Config := { endpoint := some "http://localhost" }
    let fresh : Session := { config, controller := {}, supply := config.supply reply }
    let candidates := (List.range 14).map fun k => ({ name := s!"a{k}" } : Operand)
    let answer := Suggestion.offlineAnswer candidates
    let typed := (Session.takeLine { fresh with supply := { fresh.supply with answer } } "a").value.2
    let s := (typed.takeLine ":up").value.2
    create config ⟨false⟩ reply = .ok fresh ∧ s.editor.suggestions = candidates ∧
      visibleWindow 14 (some 13) = (6, 14) ∧ s.totalLine ∈ s.pictureLines ∧
      (∃ above below, s.pictureLines = above ++ ["  > [13] a13"] ++ below ∧
        ∀ line ∈ above ++ below, ∀ row, line ≠ "  > " ++ row) ∧
      (s.takeLine " ").value.2.editor.formula = [.operand { name := "a13" }] := by
  intro reply config fresh candidates answer typed s
  have hcreate : create config ⟨false⟩ reply = .ok fresh := rfl
  have hreached : Reached s := .line (.line (.answering (.created hcreate) answer) "a") ":up"
  have hsuggestions : s.editor.suggestions = candidates := by decide +kernel
  have hhigh : s.editor.highlighted = some 13 := by decide +kernel
  have hempty : s.editor.formula = [] := by decide +kernel
  have hplain : s.palette = ⟨false⟩ := by decide +kernel
  obtain ⟨-, -, hview, -, hmarked, htotal⟩ := highlighted_suggestion_in_view hreached
  obtain ⟨-, -, c, above, below, hc, hlines, hothers, henter⟩ := hmarked 13 hhigh
  rw [hsuggestions] at hview htotal hc
  rw [hhigh] at hview
  rw [hplain] at hlines hothers
  obtain rfl : { name := "a13" } = c := Option.some.inj hc
  have hhidden : s.suggestionRow 0 { name := "a0" } ∉ s.pictureLines := fun hmem =>
    absurd ((hview 0 _ rfl).mp hmem).1 (by decide)
  refine ⟨hcreate, hsuggestions, by decide, htotal.mpr ⟨0, _, rfl, hhidden⟩,
    ⟨above, below, hlines, ?_⟩, ?_⟩
  · rintro line hline row rfl
    refine hothers _ hline row ?_
    rw [markedLine, Palette.paint_plain, ← String.append_assoc]
    rfl
  · rw [henter " " (.plain (by decide) (Or.inl (by decide))), hempty]
    decide +kernel

end Formulary.Session
