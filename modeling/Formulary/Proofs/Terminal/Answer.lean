import Formulary.Proofs.Config.Binding
import Formulary.Proofs.Terminal.Submission
import Mathlib.Data.List.TakeDrop
import Mathlib.Data.List.TakeWhile

/-!
# Every line is answered

A session answers each line with a text or ends, unless the line makes a call that lapses. What ends the
session is read off the first word of a command. A picture starts with a space, and the text of a refused
command does not, so that a refusal tells that the line left the session as it was.
-/

namespace Formulary.Session

variable {s : Session} {line : String}

/-! ## The word of a command -/

/-- The first word is cut off where the text before it, and the word, end. -/
theorem span_word {before word after : List Char} (hbefore : ∀ c ∈ before, Text.isBlank c = true)
    (hword : ∀ c ∈ word, Text.isBlank c = false) (hne : word ≠ [])
    (hafter : ∀ c ∈ after.head?, Text.isBlank c = true) :
    ((before ++ word ++ after).dropWhile Text.isBlank).span (fun c => !Text.isBlank c) =
      (word, after) := by
  obtain ⟨c, rest, rfl⟩ := List.exists_cons_of_ne_nil hne
  have hc : Text.isBlank c = false := hword c List.mem_cons_self
  rw [List.append_assoc, List.dropWhile_append_of_pos hbefore, List.cons_append,
    List.dropWhile_cons_of_neg (by simp [hc]), ← List.cons_append, List.span_eq_takeWhile_dropWhile]
  have hpos : ∀ d ∈ c :: rest, (!Text.isBlank d) = true := fun d hd => by simp [hword d hd]
  rw [List.takeWhile_append_of_pos hpos, List.dropWhile_append_of_pos hpos]
  cases after with
  | nil => simp
  | cons a tail =>
    have ha : Text.isBlank a = true := hafter a rfl
    simp [ha]

/-- The name of a command is the lower case of the first word behind the colon. -/
theorem names_iff {name : String} (hname : name ≠ "") :
    Names line name ↔ ∃ before word after : List Char,
      line.toList = ':' :: (before ++ word ++ after) ∧
        (∀ c ∈ before, Text.isBlank c = true) ∧ (∀ c ∈ word, Text.isBlank c = false) ∧
        (∀ c ∈ after.head?, Text.isBlank c = true) ∧ Text.lower (String.ofList word) = name := by
  constructor
  · rintro ⟨rest, hline, hlower⟩
    rw [splitCommand, String.toList_ofList, List.span_eq_takeWhile_dropWhile] at hlower
    refine ⟨rest.takeWhile Text.isBlank,
      (rest.dropWhile Text.isBlank).takeWhile fun c => !Text.isBlank c,
      (rest.dropWhile Text.isBlank).dropWhile fun c => !Text.isBlank c, ?_, ?_, ?_, ?_, hlower⟩
    · rw [List.append_assoc, List.takeWhile_append_dropWhile, List.takeWhile_append_dropWhile, hline]
    · exact fun c hc => List.mem_takeWhile_imp hc
    · intro c hc
      simpa using List.mem_takeWhile_imp hc
    · intro c hc
      have hnot := List.head?_dropWhile_not (fun c => !Text.isBlank c) (rest.dropWhile Text.isBlank)
      rw [Option.mem_def.mp hc] at hnot
      simpa using hnot
  · rintro ⟨before, word, after, hline, hbefore, hword, hafter, rfl⟩
    have hne : word ≠ [] := by
      rintro rfl
      exact hname rfl
    refine ⟨_, hline, ?_⟩
    rw [splitCommand, String.toList_ofList, span_word hbefore hword hne hafter]

theorem ofName?_eq_quit_iff {name : String} :
    SessionCommand.ofName? name = some .quit ↔ name ∈ ["quit", "q", "exit"] := by
  constructor
  · intro h
    have hmem : name ∈ SessionCommand.quit.names := by simpa using List.find?_some h
    exact hmem
  · intro h
    simp only [List.mem_cons, List.not_mem_nil, or_false] at h
    rcases h with rfl | rfl | rfl <;> decide

/-- The line is a command whose first word, in lower case, is one of those that end a session. -/
def Quits (line : String) : Prop :=
  ∃ before word after : List Char, line.toList = ':' :: (before ++ word ++ after) ∧
    (∀ c ∈ before, Text.isBlank c = true) ∧ (∀ c ∈ word, Text.isBlank c = false) ∧
    (∀ c ∈ after.head?, Text.isBlank c = true) ∧
    Text.lower (String.ofList word) ∈ ["quit", "q", "exit"]

theorem quits_iff :
    Quits line ↔ ∃ name, Names line name ∧ SessionCommand.ofName? name = some .quit := by
  constructor
  · rintro ⟨before, word, after, hline, hbefore, hword, hafter, hlower⟩
    have hne : Text.lower (String.ofList word) ≠ "" := by
      intro heq
      rw [heq] at hlower
      revert hlower
      decide
    exact ⟨_, (names_iff hne).mpr ⟨before, word, after, hline, hbefore, hword, hafter, rfl⟩,
      ofName?_eq_quit_iff.mpr hlower⟩
  · rintro ⟨name, hnames, hname⟩
    have hmem := ofName?_eq_quit_iff.mp hname
    have hne : name ≠ "" := by
      rintro rfl
      revert hmem
      decide
    obtain ⟨before, word, after, hline, hbefore, hword, hafter, rfl⟩ := (names_iff hne).mp hnames
    exact ⟨before, word, after, hline, hbefore, hword, hafter, hmem⟩

theorem takeLine_quit (s : Session) (h : Quits line) : (s.takeLine line).value = (.quit, s) := by
  obtain ⟨name, hline, hname⟩ := quits_iff.mp h
  obtain ⟨argument, hrun⟩ := hline.takeLine hname s
  rw [hrun]
  rfl

/-! ## Pictures and refusals -/

theorem head?_append {a : String} {c : Char} (h : a.toList.head? = some c) (b : String) :
    (a ++ b).toList.head? = some c := by
  simp [String.toList_append, h]

theorem head?_intercalate {a : String} {c : Char} (h : a.toList.head? = some c) (separator : String)
    (rest : List String) : (separator.intercalate (a :: rest)).toList.head? = some c := by
  cases rest with
  | nil => rwa [String.intercalate_singleton]
  | cons b rest =>
    rw [String.intercalate_cons_cons, String.append_assoc]
    exact head?_append h _

theorem head?_tokenLine (s : Session) : s.tokenLine.toList.head? = some ' ' := by
  unfold tokenLine
  dsimp only
  split <;> exact head?_append rfl _

theorem head?_render (s : Session) : s.render.value.toList.head? = some ' ' := by
  unfold render
  dsimp only
  split
  · exact head?_intercalate s.head?_tokenLine _ _
  · rw [Noted.value_bind]
    exact head?_intercalate s.head?_tokenLine _ _

/-- A text that is painted starts with a control character, or as it did. -/
theorem head?_paint {text : String} {c : Char} (h : text.toList.head? = some c) (p : Palette)
    (t : Tint) :
    ∃ d, (p.paint [t] text).toList.head? = some d ∧ (d = '\x1b' ∨ d = c) := by
  cases hp : p.colored with
  | false =>
    have hpaint : p.paint [t] text = text := by simp [Palette.paint, hp]
    exact ⟨c, by rw [hpaint, h], Or.inr rfl⟩
  | true =>
    have hcode : t.code.toList.head? = some '\x1b' := by cases t <;> rfl
    have hpaint : p.paint [t] text = t.code ++ text ++ Tint.reset := by
      simp [Palette.paint, hp, String.join]
    refine ⟨'\x1b', ?_, Or.inl rfl⟩
    rw [hpaint]
    exact head?_append (head?_append hcode _) _

theorem ne_render {text : String} {d : Char} (h : text.toList.head? = some d) (hd : d ≠ ' ')
    (s : Session) : text ≠ s.render.value := by
  rintro rfl
  rw [head?_render] at h
  exact hd (Option.some.inj h).symm

theorem indexError_ne_render (s s' : Session) (c : SessionCommand) :
    s.indexError c ≠ s'.render.value := by
  have hplain : (s!"Error: :{c.name} requires a token index").toList.head? = some 'E' :=
    head?_append (head?_append rfl _) _
  obtain ⟨d, hd, hor⟩ := head?_paint hplain s.palette .red
  refine ne_render hd ?_ s'
  rcases hor with rfl | rfl <;> decide

theorem unknownCommand_ne_render (s s' : Session) (name : String) :
    s.unknownCommand name ≠ s'.render.value := by
  have hplain : (s!"Unknown command: :{name}").toList.head? = some 'U' := head?_append rfl _
  obtain ⟨d, hd, hor⟩ := head?_paint hplain s.palette .red
  refine ne_render (head?_append hd _) ?_ s'
  rcases hor with rfl | rfl <;> decide

/-! ## Answers -/

/-- The bindings can be listed if their values were read. -/
theorem bindings_ok (h : ∀ b ∈ s.config.scope, ∃ text name, parseBinding text = .ok (name, b.2)) :
    ∃ text, s.bindings = .ok text := by
  unfold bindings
  dsimp only
  split
  · exact ⟨_, rfl⟩
  · refine exists_bind_ok (Scope.listed_ok h _ ?_) fun lines => ⟨_, rfl⟩
    exact fun b hb => exists_bind_ok hb fun t => ⟨_, rfl⟩

theorem Taken.answer {r : LineResult × Session} (h : Taken s line r)
    (hscope : ∀ b ∈ s.config.scope, ∃ text name, parseBinding text = .ok (name, b.2)) :
    (∃ t, r.1 = .text t) ∨ r.1 = .quit := by
  cases h with
  | helped | listed | unknown | misplaced | shown => exact Or.inl ⟨_, rfl⟩
  | quit => exact Or.inr rfl
  | failed hfailed => exact absurd hfailed (ne_error_of_ok (bindings_ok hscope))

theorem Taken.quits {r : LineResult × Session} (h : Taken s line r) (hquit : r.1 = .quit) :
    Quits line := by
  cases h with
  | helped | listed | unknown | misplaced | shown | failed => cases hquit
  | quit hline hname => exact quits_iff.mpr ⟨_, hline, hname⟩

/-- The text of a refused command is no picture, so that nothing was done for it. -/
theorem Taken.kept {r : LineResult × Session} (h : Taken s line r) {t : String}
    (htext : r.1 = .text t)
    (hrefused : (∃ c, t = s.indexError c) ∨ ∃ name, t = s.unknownCommand name) : r.2 = s := by
  cases h with
  | helped | listed | unknown | misplaced | quit | failed => rfl
  | @shown s' hs =>
    cases htext
    rcases hrefused with ⟨c, hc⟩ | ⟨name, hname⟩
    · exact absurd hc.symm (indexError_ne_render s s' c)
    · exact absurd hname.symm (unknownCommand_ne_render s s' name)

theorem lapse?_takeLine_quit (s : Session) (h : Quits line) :
    s.lapse? (s.takeLine line).value.2 = none := by
  rw [takeLine_quit s h]
  exact lapse?_of_count rfl

/-- There is no answer to a line exactly if the line makes a call that lapses. Any other line is answered
with a text, or ends the session if it is a command to do so. As long as calls are reported to end, all
that a line began is over behind it. If the answer is that there is no such command, or no index for it,
the session is what it was. -/
theorem every_line_is_answered (h : Met s)
    (hscope : ∀ b ∈ s.config.scope, ∃ text name, parseBinding text = .ok (name, b.2))
    (e : String → Ending) (line : String) :
    let r := ((s.facing e).submit line).value
    (∀ l, r.1 = .error l ↔
        ∃ q, r.2.supply.calls = s.supply.calls ++ [q] ∧ e q = .error l) ∧
      (∀ a, r.1 = .ok a → (∃ t, a = .text t) ∨ a = .quit) ∧
      (r.1 = .ok .quit ↔ Quits line) ∧
      (r.1 ≠ .error .unreported →
        r.2.controller.refreshes = [] ∧ r.2.controller.provider.loads = []) ∧
      ∀ t, r.1 = .ok (.text t) → (∃ c, t = s.indexError c) ∨ (∃ name, t = s.unknownCommand name) →
        r.2 = s.facing e := by
  intro r
  have ht : Taken (s.facing e) line ((s.facing e).takeLine line).value := taken _ line
  have hwaits := (h.quiet.facing e).waits line
  refine ⟨?_, ?_, ⟨?_, ?_⟩, ?_, ?_⟩
  · intro l
    rw [submit_eq_error_iff, hwaits.lapse?_eq_some_iff]
    refine exists_congr fun q => and_congr_right fun _ => ?_
    rw [← Supply.ending_facing s.supply e q]
    rfl
  · intro a ha
    obtain ⟨-, rfl⟩ := submit_eq_ok_iff.mp ha
    exact ht.answer hscope
  · exact fun hquit => ht.quits (submit_eq_ok_iff.mp hquit).2
  · intro hquits
    exact submit_eq_ok_iff.mpr ⟨lapse?_takeLine_quit _ hquits,
      congrArg Prod.fst (takeLine_quit (s.facing e) hquits)⟩
  · intro hends
    have hquiet := hwaits.quiet_of_lapse? (mt submit_eq_error_iff.mpr hends)
    exact ⟨hquiet.controller.refreshes, hquiet.controller.provider.loads⟩
  · exact fun t htext hrefused => ht.kept (submit_eq_ok_iff.mp htext).2 hrefused

/-- An index that is no integer, and a capital in the word that ends the session, while every call
breaks down. -/
theorem every_line_is_answered_refused :
    let config : Config := { endpoint := some "http://localhost" }
    let reply : String → Reply := fun _ => .refused "timed out"
    let s : Session := { config, controller := {}, supply := config.supply reply }
    let down : String → Ending := fun _ =>
      SourceException.ending { origin := "builtins", kind := "OSError", text := "down" }
    let refused := ((s.facing down).submit ":at 1.5").value
    create config ⟨false⟩ reply = .ok s ∧
      ((s.facing down).submit ":\tQuit now").value.1 = .ok .quit ∧
      refused.1 = .ok (.text "Error: :at requires a token index") ∧ refused.2 = s.facing down := by
  intro config reply s down refused
  have hcreate : create config ⟨false⟩ reply = .ok s := rfl
  have hmet : Met s := .created hcreate
  have hscope := Scope.parsed_default.read
  have hquits : Quits ":\tQuit now" :=
    ⟨['\t'], "Quit".toList, " now".toList, by decide, by simp [Text.isBlank], by simp [Text.isBlank],
      by simp [Text.isBlank], by decide +kernel⟩
  have htext : refused.1 = .ok (.text (s.indexError .moveTo)) := by decide +kernel
  obtain ⟨-, -, hquit, -⟩ := every_line_is_answered hmet hscope down ":\tQuit now"
  obtain ⟨-, -, -, -, hkept⟩ := every_line_is_answered hmet hscope down ":at 1.5"
  exact ⟨hcreate, hquit.mpr hquits, htext, hkept _ htext (Or.inl ⟨_, rfl⟩)⟩

/-- Three exceptions of a source that leave a line without an answer: two break the line off, with the
entry of its text pending and no load to it, and the third never ends it. -/
theorem exceptions_leave_line_unanswered :
    let config : Config := { endpoint := some "http://localhost" }
    let reply : String → Reply := fun _ => .refused "timed out"
    let s : Session := { config, controller := {}, supply := config.supply reply }
    let future : SourceException :=
      { origin := "concurrent.futures._base", kind := "CancelledError", text := "" }
    let absent : SourceException := { origin := "builtins", kind := "KeyError", text := none }
    let stop : SourceException := { origin := "builtins", kind := "StopIteration", text := "" }
    let cancelled := ((s.facing fun _ => future.ending).submit "x").value
    let brokenOff := ((s.facing fun _ => absent.ending).submit "x").value
    create config ⟨false⟩ reply = .ok s ∧ cancelled.1 = .error .brokenOff ∧
      cancelled.2.controller.provider.cache.get? "x" =
        some { status := .pending, data := [], error := none } ∧
      cancelled.2.controller.provider.inFlight = [] ∧ brokenOff.1 = .error .brokenOff ∧
      brokenOff.2.controller.provider.cache.get? "x" =
        some { status := .pending, data := [], error := none } ∧
      brokenOff.2.controller.provider.inFlight = [] ∧
      ((s.facing fun _ => stop.ending).submit "x").value.1 = .error .unreported := by
  intro config reply s future absent stop cancelled brokenOff
  have hcreate : create config ⟨false⟩ reply = .ok s := rfl
  refine ⟨hcreate, ?_, ?_, ?_, ?_, ?_, ?_, ?_⟩ <;> decide +kernel

end Formulary.Session
